import Cadastre.Proofs.Grid.Remapper
import Cadastre.Proofs.Pipeline.Trial
import Cadastre.Proofs.Pipeline.Uploading

/-!
Resumed uploads. An upload of a partition may be run any number of times, with any settings and
providers, on files that stay as they are. If the manifests write their indices in digits and the
cache can be saved, each pair is stored once at most, and a run that is not interrupted completes
the partition.
-/

namespace Cadastre

open Site (Kept)

section

variable {cache : ProgressCache} {remapper : Remapper} {partition : Partition}
  {record grown : Record} {indices : List GlobalIndex} {state : Site.State}

/-- Whether the item is stored and names an index that lies at its key, as that index's text. -/
def Item.Told (remapper : Remapper) (partition : Partition) (key : LocalKey) (item : Item) :
    Prop :=
  item.link ≠ "" ∧ ∃ index : GlobalIndex, item.nameKey? = some (toString index) ∧
    remapper.locate index = .ok (partition, key)

namespace Record

def Stores (remapper : Remapper) (partition : Partition) (record : Record)
    (index : GlobalIndex) : Prop :=
  ∃ key item, remapper.locate index = .ok (partition, key) ∧ record.get? key = some item ∧
    item.link ≠ ""

/-- What is complete by its text is what is stored, since no two indices share a key. -/
theorem contains_completedKeys_iff_stores (numbered : remapper.layout.Numbered)
    (told : ∀ key item, record.get? key = some item → item.Told remapper partition key)
    (index : GlobalIndex) :
    record.completedKeys.contains (toString index) = true ↔
      record.Stores remapper partition index := by
  rw [contains_completedKeys_iff]
  constructor
  · rintro ⟨key, item, held, filled, named⟩
    obtain ⟨_, other, named', located⟩ := told key item held
    rw [named, Option.some.injEq] at named'
    have same := congrArg Text.readUInt64? named'
    rw [Text.readUInt64?_toString, Text.readUInt64?_toString, Option.some.injEq] at same
    subst same
    exact ⟨key, item, located, held, filled⟩
  · rintro ⟨key, item, located, held, filled⟩
    obtain ⟨_, other, named, located'⟩ := told key item held
    have same := Remapper.locate_injective numbered located located'
    subst same
    exact ⟨key, item, held, filled, named⟩

structure Adds (remapper : Remapper) (partition : Partition) (indices : List GlobalIndex)
    (record grown : Record) : Prop where
  kept : ∀ key item, record.get? key = some item → grown.get? key = some item
  stores : ∀ index ∈ indices, grown.Stores remapper partition index
  fresh : ∀ key item, grown.get? key = some item → record.get? key = some item ∨
    item.Told remapper partition key ∧ ∃ index ∈ indices, remapper.locate index = .ok (partition, key)

theorem Stores.adds {index : GlobalIndex} (stores : record.Stores remapper partition index)
    (adds : record.Adds remapper partition indices grown) :
    grown.Stores remapper partition index := by
  obtain ⟨key, item, located, held, filled⟩ := stores
  exact ⟨key, item, located, adds.kept key item held, filled⟩

theorem Adds.refl (remapper : Remapper) (partition : Partition) (record : Record) :
    record.Adds remapper partition [] record :=
  ⟨fun _ _ held => held, nofun, fun _ _ held => Or.inl held⟩

theorem Adds.trans {middle : Record} {more : List GlobalIndex}
    (first : record.Adds remapper partition indices middle)
    (second : middle.Adds remapper partition more grown) :
    record.Adds remapper partition (indices ++ more) grown := by
  refine ⟨fun key item held => second.kept key item (first.kept key item held),
    fun index member => ?_, fun key item held => ?_⟩
  · rcases List.mem_append.mp member with earlier | later
    · exact (first.stores index earlier).adds second
    · exact second.stores index later
  · rcases second.fresh key item held with earlier | ⟨told, index, later, lies⟩
    · rcases first.fresh key item earlier with old | ⟨told, index, member, lies⟩
      · exact Or.inl old
      · exact Or.inr ⟨told, index, List.mem_append_left _ member, lies⟩
    · exact Or.inr ⟨told, index, List.mem_append_right _ later, lies⟩

theorem adds_put {index : GlobalIndex} {key : LocalKey} {item : Item}
    (vacant : record.get? key = none) (told : item.Told remapper partition key)
    (located : remapper.locate index = .ok (partition, key)) :
    record.Adds remapper partition [index] (record.put key item) := by
  refine ⟨fun other found held => get?_put_of_vacant vacant held, fun other member => ?_,
    fun other found held => ?_⟩
  · cases List.mem_singleton.mp member
    exact ⟨key, item, located, get?_put_self _ _ _, told.1⟩
  · rcases get?_put_cases held with ⟨rfl, rfl⟩ | earlier
    · exact Or.inr ⟨told, index, List.mem_singleton_self _, located⟩
    · exact Or.inl earlier

end Record

theorem Pipeline.recordPairs_adds {terms : Site.Terms} {group : List FilePair}
    {uploaded : List UploadedPair} (numbered : remapper.layout.Numbered)
    (stored : List.Forall₂ (FilePair.StoredAs terms) group uploaded)
    (digits : ∀ pair ∈ group, ∀ manifest, Source.Shows terms pair manifest →
      Item.WritesDigits manifest.name)
    (vacant : ∀ pair ∈ group, ∃ key, remapper.locate pair.key = .ok (partition, key) ∧
      record.get? key = none)
    (apart : group.Pairwise fun one other => one.key ≠ other.key) :
    ∃ grown, recordPairs remapper record uploaded = .ok grown ∧
      record.Adds remapper partition (group.map FilePair.key) grown := by
  induction stored generalizing record with
  | nil => exact ⟨record, rfl, .refl remapper partition record⟩
  | @cons pair first rest others as more ih =>
      obtain ⟨key, located, free⟩ := vacant pair List.mem_cons_self
      obtain ⟨manifest, shown, named⟩ := as.name
      have text := (Item.indexInName?_eq_toString_iff (Manifest.numberInName?_of_shows shown)).mpr
        (digits pair List.mem_cons_self manifest shown)
      let item : Item := ⟨first.link, first.manifest.name, false⟩
      have told : item.Told remapper partition key :=
        ⟨as.link, pair.key, (congrArg Item.indexInName? named).trans text, located⟩
      have step : record.recordUpload key first.link first.manifest.name
          = (.ok (), record.put key item) := by
        refine (Record.recordUpload_eq_ok_iff _ _ _ _ _).mpr ⟨?_, as.link, ?_⟩
        · rw [free]
          rfl
        · rw [free]
          rfl
      obtain ⟨differs, apart⟩ := List.pairwise_cons.mp apart
      have vacant' : ∀ other ∈ rest, ∃ place,
          remapper.locate other.key = .ok (partition, place) ∧
            (record.put key item).get? place = none := by
        intro other member
        obtain ⟨place, lies, empty⟩ := vacant other (List.mem_cons_of_mem _ member)
        refine ⟨place, lies, ?_⟩
        rw [Record.get?_put_of_ne _ _ ?_, empty]
        rintro rfl
        exact differs other member (Remapper.locate_injective numbered located lies)
      obtain ⟨grown, recorded, adds⟩ := ih
        (fun other member => digits other (List.mem_cons_of_mem _ member)) vacant' apart
      refine ⟨grown, ?_, (Record.adds_put free told located).trans adds⟩
      rw [recordPairs, as.key, located]
      simp only [step, recorded]

/-- What the cache and the provider have: the partition's record, whose items are told, and pairs
that were stored once each. The indices among `extra` may be stored but not recorded yet. -/
structure Site.Tally (cache : ProgressCache) (remapper : Remapper) (partition : Partition)
    (record : Record) (extra : List GlobalIndex) (state : Site.State) : Prop where
  page : ∃ book, cache.Holds state.cache book ∧ book partition = record
  told : ∀ key item, record.get? key = some item → item.Told remapper partition key
  stored : ∀ index ∈ state.stored, index ∈ extra ∨ record.Stores remapper partition index
  once : state.stored.Nodup

def Site.Once (state : Site.State) : Prop := state.stored.Nodup

theorem Site.kept_tally (cache : ProgressCache) (remapper : Remapper) (partition : Partition)
    (record : Record) (extra : List GlobalIndex) :
    Kept Site.Once (Site.Tally cache remapper partition record extra) := by
  refine ⟨?_, fun _ tally => tally.once⟩
  rintro before _ tally ⟨_, _, _, _, rfl⟩
  exact ⟨tally.page, tally.told, tally.stored, tally.once⟩

structure Pipeline.Left (remapper : Remapper) (partition : Partition)
    (candidates : List FilePair) (groups : List (List FilePair)) (record : Record) : Prop where
  among : ∀ pair ∈ groups.flatten, pair ∈ candidates
  vacant : ∀ pair ∈ groups.flatten, ∃ key, remapper.locate pair.key = .ok (partition, key) ∧
    record.get? key = none
  apart : groups.flatten.Pairwise fun one other => one.key ≠ other.key
  known : ∀ pair ∈ candidates, pair ∈ groups.flatten ∨
    record.Stores remapper partition pair.key

theorem Pipeline.Left.start {entries : List DirectoryEntry} {dir : String}
    {candidates : List FilePair} {groups : List (List FilePair)}
    (numbered : remapper.layout.Numbered)
    (told : ∀ key item, record.get? key = some item → item.Told remapper partition key)
    (listed : Source.inPartition remapper partition (Source.pairs dir entries) = .ok candidates)
    (flat : groups.flatten = record.pendingPairs candidates) :
    Left remapper partition candidates groups record := by
  have pending : ∀ pair, pair ∈ groups.flatten ↔
      pair ∈ candidates ∧ ¬ record.Stores remapper partition pair.key := fun pair => by
    rw [flat, Record.mem_pendingPairs_iff, Record.contains_completedKeys_iff_stores numbered told]
  refine ⟨fun pair member => ((pending pair).mp member).1, fun pair member => ?_, ?_,
    fun pair member => ?_⟩
  · obtain ⟨candidate, missing⟩ := (pending pair).mp member
    obtain ⟨_, key, located⟩ := (Source.mem_inPartition_iff listed pair).mp candidate
    refine ⟨key, located, ?_⟩
    cases held : record.get? key with
    | none => rfl
    | some item => exact absurd ⟨key, item, located, held, (told key item held).1⟩ missing
  · rw [flat]
    exact ((Source.pairwise_pairs dir entries).sublist (Source.inPartition_sublist listed)).sublist
      List.filter_sublist
  · by_cases stores : record.Stores remapper partition pair.key
    · exact Or.inr stores
    · exact Or.inl ((pending pair).mpr ⟨member, stores⟩)

theorem Pipeline.Left.step {candidates group : List FilePair} {rest : List (List FilePair)}
    (numbered : remapper.layout.Numbered)
    (left : Left remapper partition candidates (group :: rest) record)
    (adds : record.Adds remapper partition (group.map FilePair.key) grown) :
    Left remapper partition candidates rest grown := by
  have whole : (group :: rest).flatten = group ++ rest.flatten := List.flatten_cons
  have later : ∀ pair ∈ rest.flatten, pair ∈ (group :: rest).flatten := fun pair member =>
    whole ▸ List.mem_append_right _ member
  obtain ⟨_, apart, differs⟩ := List.pairwise_append.mp (whole ▸ left.apart)
  refine ⟨fun pair member => left.among pair (later pair member), fun pair member => ?_, apart,
    fun pair member => ?_⟩
  · obtain ⟨key, located, free⟩ := left.vacant pair (later pair member)
    refine ⟨key, located, ?_⟩
    cases held : grown.get? key with
    | none => rfl
    | some item =>
        rcases adds.fresh key item held with earlier | ⟨_, index, grouped, lies⟩
        · rw [free] at earlier
          cases earlier
        · obtain ⟨other, now, rfl⟩ := List.mem_map.mp grouped
          exact absurd (Remapper.locate_injective numbered lies located)
            (differs other now pair member)
  · rcases left.known pair member with coming | stores
    · rcases List.mem_append.mp (whole ▸ coming) with now | rest
      · exact Or.inr (adds.stores pair.key (List.mem_map_of_mem now))
      · exact Or.inl rest
    · exact Or.inr (stores.adds adds)

theorem Site.Tally.stores {group : List FilePair} {rest : List (List FilePair)}
    {candidates : List FilePair} (tally : Site.Tally cache remapper partition record [] state)
    (left : Pipeline.Left remapper partition candidates (group :: rest) record) :
    Site.Tally cache remapper partition record (group.map FilePair.key)
      { state with stored := state.stored ++ group.map FilePair.key } := by
  have whole : (group :: rest).flatten = group ++ rest.flatten := List.flatten_cons
  refine ⟨tally.page, tally.told, fun index member => ?_, ?_⟩
  · rcases List.mem_append.mp member with earlier | now
    · exact Or.inr ((tally.stored index earlier).resolve_left List.not_mem_nil)
    · exact Or.inl now
  · refine List.nodup_append.mpr ⟨tally.once, ?_, ?_⟩
    · exact List.pairwise_map.mpr (List.pairwise_append.mp (whole ▸ left.apart)).1
    · rintro index earlier _ now rfl
      obtain ⟨pair, member, rfl⟩ := List.mem_map.mp now
      obtain ⟨key, item, located, held, _⟩ :=
        (tally.stored pair.key earlier).resolve_left List.not_mem_nil
      obtain ⟨other, lies, free⟩ := left.vacant pair (whole ▸ List.mem_append_left _ member)
      rw [located] at lies
      cases lies
      rw [held] at free
      cases free

theorem Site.Tally.saves {bytes : Bytes} {book : Partition → Record}
    (tally : Site.Tally cache remapper partition record indices state)
    (adds : record.Adds remapper partition indices grown)
    (holds : cache.Holds (some bytes) (Function.update book partition grown)) :
    Site.Tally cache remapper partition grown [] { state with cache := some bytes } := by
  refine ⟨⟨_, holds, Function.update_self _ _ _⟩, fun key item held => ?_,
    fun index member => Or.inr ?_, tally.once⟩
  · rcases adds.fresh key item held with earlier | ⟨told, _⟩
    · exact tally.told key item earlier
    · exact told
  · rcases tally.stored index member with now | earlier
    · exact adds.stores index now
    · exact earlier.adds adds

end

structure Assets where
  dir : String
  entries : List DirectoryEntry
  file : String → Option Bytes

namespace Assets

structure Serves (assets : Assets) (terms : Site.Terms) : Prop where
  lists : ∀ found, terms.Lists found → found = assets.entries
  reads : ∀ path bytes, terms.Reads path bytes → assets.file path = some bytes
  saves : ¬ terms.CacheFails

def WritesDigits (assets : Assets) : Prop :=
  ∀ pair ∈ Source.pairs assets.dir assets.entries, ∀ bytes manifest,
    assets.file pair.metadata = some bytes → Source.readManifest pair bytes = .ok manifest →
      Item.WritesDigits manifest.name

end Assets

namespace Pipeline

variable {pipeline : Pipeline} {terms : Site.Terms} {assets : Assets} {partition : Partition}
  {record : Record} {state : Site.State}

theorem digits_of_serves (serves : assets.Serves terms) (digits : assets.WritesDigits)
    {pair : FilePair} (member : pair ∈ Source.pairs assets.dir assets.entries)
    {manifest : Manifest} (shown : Source.Shows terms pair manifest) :
    Item.WritesDigits manifest.name := by
  obtain ⟨bytes, reads, accepted⟩ := shown
  exact digits pair member bytes manifest (serves.reads _ _ reads) accepted

theorem uploadGroup_tallies {candidates group : List FilePair} {rest : List (List FilePair)}
    {batch : Nat} (numbered : pipeline.remapper.layout.Numbered) (serves : assets.Serves terms)
    (digits : assets.WritesDigits)
    (listed : Source.inPartition pipeline.remapper partition
      (Source.pairs assets.dir assets.entries) = .ok candidates)
    (left : Left pipeline.remapper partition candidates (group :: rest) record)
    (tally : Site.Tally pipeline.cache pipeline.remapper partition record [] state) :
    Work.Safe terms Site.Once
      (fun result state => result.1.uploaded.length = group.length ∧
        Site.Tally pipeline.cache pipeline.remapper partition result.2 [] state ∧
          Left pipeline.remapper partition candidates rest result.2)
      (fun fault state => Site.Tally pipeline.cache pipeline.remapper partition record [] state ∧
        ¬ fault.IsTransition)
      (pipeline.uploadGroup ⟨partition, record⟩ batch group) state := by
  have whole : (group :: rest).flatten = group ++ rest.flatten := List.flatten_cons
  have grouped : ∀ pair ∈ group, pair ∈ (group :: rest).flatten := fun pair member =>
    whole ▸ List.mem_append_left _ member
  have records : ∀ uploaded, List.Forall₂ (FilePair.StoredAs terms) group uploaded →
      ∃ grown, recordPairs pipeline.remapper record uploaded = .ok grown ∧
        record.Adds pipeline.remapper partition (group.map FilePair.key) grown := by
    intro uploaded stored
    refine recordPairs_adds numbered stored (fun pair member manifest shown => ?_)
      (fun pair member => left.vacant pair (grouped pair member))
      (List.pairwise_append.mp (whole ▸ left.apart)).1
    exact digits_of_serves serves digits (((Source.mem_inPartition_iff listed pair).mp
      (left.among pair (grouped pair member))).1) shown
  have kept := fun record extra =>
    Site.kept_tally pipeline.cache pipeline.remapper partition record extra
  refine uploadGroup_safe
    (Site.Tally pipeline.cache pipeline.remapper partition record (group.map FilePair.key))
    (fun grown state => Site.Tally pipeline.cache pipeline.remapper partition grown []
      state ∧ Left pipeline.remapper partition candidates rest grown)
    (kept _ _) (kept _ _) (fun _ => (kept _ _).and (Site.stable_const _))
    (fun _ => (kept _ _).and (Site.stable_const _)) ?_ ?_ ?_ ?_ ?_ ?_ tally
  · rintro state ⟨⟨book, holds, _⟩, _⟩
    exact ⟨book, holds⟩
  · exact fun state tally => tally.stores left
  · intro uploaded fault state stored failed _
    obtain ⟨grown, recorded, _⟩ := records uploaded stored
    rw [failed] at recorded
    cases recorded
  · intro uploaded grown state book bytes stored recorded tally _ holds
    obtain ⟨other, recorded', adds⟩ := records uploaded stored
    rw [recorded] at recorded'
    cases recorded'
    exact ⟨tally.saves adds holds, left.step numbered adds⟩
  · exact fun fault state tally other => ⟨tally, other⟩
  · exact fun reason state _ fails => absurd fails serves.saves

def Completes (remapper : Remapper) (assets : Assets) (handle : PartitionHandle) : Prop :=
  ∀ index key, Source.Complete assets.entries index →
    remapper.locate index = .ok (handle.partition, key) →
      ∃ item, handle.record.get? key = some item ∧ item.link ≠ ""

theorem uploadHandle_tallies (numbered : pipeline.remapper.layout.Numbered)
    (serves : assets.Serves terms) (digits : assets.WritesDigits)
    (dir : pipeline.assetsDir = assets.dir)
    (tally : Site.Tally pipeline.cache pipeline.remapper partition record [] state) :
    Work.Safe terms Site.Once
      (fun result state =>
        Site.Tally pipeline.cache pipeline.remapper partition result.2.record [] state ∧
        result.2.partition = partition ∧
        (result.1.interrupted = false → result.1.uploaded = result.1.pending ∧
          Completes pipeline.remapper assets result.2))
      (fun fault state => ¬ fault.IsTransition ∧ ∃ record,
        Site.Tally pipeline.cache pipeline.remapper partition record [] state)
      (pipeline.uploadHandle ⟨partition, record⟩) state := by
  have kept := fun record =>
    Site.kept_tally pipeline.cache pipeline.remapper partition record []
  have keptFails : ∀ fault : PipelineFault, Kept Site.Once fun state => ¬ fault.IsTransition ∧
      ∃ record, Site.Tally pipeline.cache pipeline.remapper partition record [] state := by
    refine fun fault => ⟨?_, ?_⟩
    · rintro before after ⟨other, record, tally⟩ drift
      exact ⟨other, record, (kept record).stable before after tally drift⟩
    · rintro state ⟨_, record, tally⟩
      exact tally.once
  have listed : ∀ candidates, Source.Lists terms pipeline.assetsDir pipeline.remapper partition
      candidates → Source.inPartition pipeline.remapper partition
        (Source.pairs assets.dir assets.entries) = .ok candidates := by
    rintro candidates ⟨entries, lists, found⟩
    rw [dir, serves.lists entries lists] at found
    exact found
  refine (uploadHandle_safe
    (fun candidates groups record state =>
      Site.Tally pipeline.cache pipeline.remapper partition record [] state ∧
        Left pipeline.remapper partition candidates groups record)
    (fun record fault state =>
      Site.Tally pipeline.cache pipeline.remapper partition record [] state ∧ ¬ fault.IsTransition)
    (kept record) (fun _ _ _ => (kept _).and (Site.stable_const _))
    (fun _ _ => (kept _).and (Site.stable_const _)) keptFails ?_ ?_ ?_ ?_ tally).weaken ?_
    fun _ _ => id
  · exact fun candidates groups state tally lists flat =>
      ⟨tally, Left.start numbered tally.told (listed candidates lists) flat⟩
  · rintro candidates batch group rest record state lists ⟨tally, left⟩
    exact uploadGroup_tallies numbered serves digits (listed candidates lists) left tally
  · exact fun record fault state _ stopped => ⟨stopped.2, record, stopped.1⟩
  · exact fun fault state tally other => ⟨other, record, tally⟩
  · rintro _ state (@⟨candidates, count, batches, record, _, lists, tally, left⟩ | ⟨_, stopped⟩)
    · refine ⟨tally, rfl, fun _ => ⟨rfl, fun index key complete located => ?_⟩⟩
      obtain ⟨pair, member, rfl⟩ :=
        (Source.exists_pair_iff assets.dir assets.entries index).mpr complete
      have candidate := (Source.mem_inPartition_iff (listed candidates lists) pair).mpr
        ⟨member, key, located⟩
      obtain ⟨other, item, lies, held, filled⟩ :=
        (left.known pair candidate).resolve_left (by simp)
      rw [located] at lies
      cases lies
      exact ⟨item, held, filled⟩
    · exact ⟨stopped.1, rfl, nofun⟩

end Pipeline

def Assets.Runs (assets : Assets) (cache : ProgressCache) (remapper : Remapper)
    (handle : PartitionHandle) (before : Site.State)
    (left : Job Site (Except PipelineFault (UploadSummary × PartitionHandle)))
    (after : Site.State) : Prop :=
  ∃ (pipeline : Pipeline) (terms : Site.Terms), pipeline.cache = cache ∧
    pipeline.remapper = remapper ∧ pipeline.assetsDir = assets.dir ∧ assets.Serves terms ∧
    Job.Leads (Site.world terms) (pipeline.uploadHandle handle).run before left after

/-- What runs may come to that begin with an empty record: the record that the next run is to go
on with, and the state. The record is kept from a run that returned it, or it is read anew. -/
inductive Assets.Resumed (assets : Assets) (cache : ProgressCache) (remapper : Remapper)
    (partition : Partition) : Record → Site.State → Prop where
  | start {book : Partition → Record} {state : Site.State} : cache.Holds state.cache book →
      book partition = {} → state.stored = [] →
        Resumed assets cache remapper partition {} state
  | kept {record : Record} {summary : UploadSummary} {handle : PartitionHandle}
      {before after : Site.State} : Resumed assets cache remapper partition record before →
      assets.Runs cache remapper ⟨partition, record⟩ before (.done (.ok (summary, handle))) after →
        Resumed assets cache remapper partition handle.record after
  | reopened {record : Record} {found : Option Record}
      {result : Except PipelineFault (UploadSummary × PartitionHandle)}
      {before after : Site.State} : Resumed assets cache remapper partition record before →
      assets.Runs cache remapper ⟨partition, record⟩ before (.done result) after →
      cache.load after.cache partition = .ok found →
        Resumed assets cache remapper partition (found.getD {}) after

def Trial.assets (trial : Trial) : Assets :=
  ⟨Trial.pipeline.assetsDir, trial.entries, fun path => trial.files.lookup path⟩

theorem Trial.runs (trial : Trial) (handle : PartitionHandle) (state : Site.State) :
    trial.assets.Runs Trial.pipeline.cache Trial.pipeline.remapper handle state
      (.done (trial.perform (Trial.pipeline.uploadHandle handle).run state).1)
      (trial.perform (Trial.pipeline.uploadHandle handle).run state).2 :=
  ⟨Trial.pipeline, trial.terms, rfl, rfl, rfl, ⟨fun _ same => same, fun _ _ same => same, id⟩,
    trial.leads_perform _ _⟩

theorem Trial.writesDigits_sample : Trial.sample.assets.WritesDigits := by
  have pairs : Source.pairs Trial.sample.assets.dir Trial.sample.assets.entries
      = [⟨0, "assets/0.png", "assets/0.json", 49⟩] := by
    decide +kernel
  have named : (Trial.sample.assets.file "assets/0.json").bind (fun bytes =>
      (Source.readManifest ⟨0, "assets/0.png", "assets/0.json", 49⟩ bytes).toOption.map
        Manifest.name) = some "Land #0" := by
    decide +kernel
  intro pair member bytes manifest found accepted
  rw [pairs, List.mem_singleton] at member
  subst member
  rw [found, Option.bind_some, accepted] at named
  rw [show manifest.name = "Land #0" from Option.some.inj named]
  exact ⟨['0'], by decide +kernel, by decide, by decide⟩

variable {assets : Assets} {cache : ProgressCache} {remapper : Remapper} {partition : Partition}
  {record : Record}

theorem Site.Tally.load_eq {state : Site.State} {found : Option Record}
    (tally : Site.Tally cache remapper partition record [] state)
    (loaded : cache.load state.cache partition = .ok found) : found.getD {} = record := by
  obtain ⟨book, holds, page⟩ := tally.page
  exact (holds.load_eq loaded).trans page

theorem Assets.Resumed.tally {state : Site.State}
    (resumed : assets.Resumed cache remapper partition record state)
    (numbered : remapper.layout.Numbered) (digits : assets.WritesDigits) :
    Site.Tally cache remapper partition record [] state := by
  induction resumed with
  | start holds empty none =>
      refine ⟨⟨_, holds, empty⟩, fun key item held => ?_, fun index member => ?_, ?_⟩
      · simp at held
      · rw [none] at member
        cases member
      · rw [none]
        exact List.nodup_nil
  | kept _ run ih =>
      obtain ⟨pipeline, terms, rfl, rfl, dir, serves, leads⟩ := run
      exact ((Pipeline.uploadHandle_tallies numbered serves digits dir ih _ _ leads).2 _ rfl).1
  | @reopened record found result before after _ run loaded ih =>
      obtain ⟨pipeline, terms, rfl, rfl, dir, serves, leads⟩ := run
      have ended := (Pipeline.uploadHandle_tallies numbered serves digits dir ih _ _ leads).2 _ rfl
      cases result with
      | ok result =>
          rw [ended.1.load_eq loaded]
          exact ended.1
      | error fault =>
          obtain ⟨_, last, tally⟩ := ended
          rw [tally.load_eq loaded]
          exact tally

/-- However often an upload is cut and begun anew: no pair is ever stored twice, no run ends with
an item in a wrong state, and a run that is not interrupted uploads what is pending and completes
the partition, in the cache too. -/
theorem stored_once_of_resumed {before after : Site.State}
    {left : Job Site (Except PipelineFault (UploadSummary × PartitionHandle))}
    (numbered : remapper.layout.Numbered) (digits : assets.WritesDigits)
    (resumed : assets.Resumed cache remapper partition record before)
    (run : assets.Runs cache remapper ⟨partition, record⟩ before left after) :
    after.stored.Nodup ∧
      (∀ fault, left = .done (.error fault) → ¬ fault.IsTransition) ∧
      ∀ summary handle, left = .done (.ok (summary, handle)) → summary.interrupted = false →
        summary.uploaded = summary.pending ∧
        (∀ index key, Source.Complete assets.entries index →
          remapper.locate index = .ok (partition, key) →
            ∃ item, handle.record.get? key = some item ∧ item.link ≠ "") ∧
        ∃ found, cache.load after.cache partition = .ok found ∧
          found.getD {} = handle.record := by
  have tally := resumed.tally numbered digits
  obtain ⟨pipeline, terms, rfl, rfl, dir, serves, leads⟩ := run
  obtain ⟨once, ended⟩ :=
    Pipeline.uploadHandle_tallies numbered serves digits dir tally _ _ leads
  refine ⟨once, fun fault same => (ended _ same).1, fun summary handle same whole => ?_⟩
  obtain ⟨tally', place, all⟩ := ended _ same
  obtain ⟨count, completes⟩ := all whole
  refine ⟨count, fun index key complete located => ?_, ?_⟩
  · exact completes index key complete (place ▸ located)
  · obtain ⟨book, holds, page⟩ := tally'.page
    obtain ⟨found, loaded, same⟩ := holds.loads partition
    exact ⟨found, loaded, same.trans page⟩

theorem stored_once_after_refusal :
    ∃ (record : Record) (summary : UploadSummary) (handle : PartitionHandle)
      (before after : Site.State),
      Trial.sample.assets.Resumed Trial.pipeline.cache Trial.pipeline.remapper ⟨0, 0⟩ record
        before ∧
      Trial.sample.assets.Runs Trial.pipeline.cache Trial.pipeline.remapper ⟨⟨0, 0⟩, record⟩ before
        (.done (.ok (summary, handle))) after ∧
      after.stored = [0] ∧ after.stored.Nodup ∧ summary.uploaded = summary.pending := by
  let before := ({ Trial.sample with machine := Trial.closed }.perform
    (Trial.pipeline.uploadHandle ⟨⟨0, 0⟩, {}⟩).run {}).2
  have none : before.cache = none := by decide +kernel
  have resumed : Trial.sample.assets.Resumed Trial.pipeline.cache Trial.pipeline.remapper ⟨0, 0⟩
      {} before := by
    have empty : Trial.pipeline.cache.load before.cache ⟨0, 0⟩ = .ok Option.none := by
      rw [none]
      rfl
    exact .reopened (.start (ProgressCache.holds_none _) rfl rfl)
      ({ Trial.sample with machine := Trial.closed }.runs ⟨⟨0, 0⟩, {}⟩ {}) empty
  obtain ⟨result, after, run, whole, stored⟩ : ∃ result after,
      Trial.sample.assets.Runs Trial.pipeline.cache Trial.pipeline.remapper ⟨⟨0, 0⟩, {}⟩ before
        (.done result) after ∧
      result.toOption.map (fun ended => ended.1.interrupted) = some false ∧ after.stored = [0] :=
    ⟨_, _, Trial.sample.runs _ _, by decide +kernel, by decide +kernel⟩
  cases result with
  | error fault => cases whole
  | ok ended =>
      obtain ⟨summary, handle⟩ := ended
      obtain ⟨once, _, complete⟩ := stored_once_of_resumed ⟨by decide, by decide, by decide⟩
        Trial.writesDigits_sample resumed run
      exact ⟨{}, summary, handle, before, after, resumed, run, stored, once,
        (complete summary handle rfl (Option.some.inj whole)).1⟩

end Cadastre
