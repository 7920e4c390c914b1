import Cadastre.Proofs.Pipeline.Depositing
import Cadastre.Proofs.Pipeline.Resumption
import Cadastre.Proofs.Pipeline.Stage
import Mathlib.Data.List.Pairwise

/-!
Uploads that are cut in different ways. What a pair comes to as an item depends on its files, its
index and the record that the uploads began with, not on the group that it is stored in or the run
that it is stored by. So all histories that complete a partition leave the same record.
-/

namespace Cadastre

structure Assets.Supplies (assets : Assets) (conditions : Site.Conditions) : Prop where
  lists : ∀ entries, conditions.Lists entries → entries = assets.entries
  reads : ∀ path bytes, conditions.Reads path bytes → assets.file path = some bytes

/-- What histories of uploads of a partition have in common. -/
structure Regrouping where
  remapper : Remapper
  partition : Partition
  assets : Assets
  locators : Locators
  start : Record

namespace Regrouping

def Runs (common : Regrouping) (cache : ProgressCache) (record : Record) (before : Site.Diary)
    (left : Job Site (Except PipelineFault (UploadSummary × PartitionHandle)))
    (after : Site.Diary) : Prop :=
  ∃ (pipeline : Pipeline) (conditions : Site.Conditions), pipeline.cache = cache ∧
    pipeline.remapper = common.remapper ∧ pipeline.assetsDir = common.assets.dir ∧
    common.assets.Supplies conditions ∧
    (∀ prepared uploaded, conditions.Delivers prepared uploaded →
      uploaded = prepared.map (PreparedPair.storedUnder common.locators)) ∧
    Job.Leads (Site.openWorld conditions)
      (pipeline.uploadHandle ⟨common.partition, record⟩).run before left after

/-- What runs may come to: the record that the next run is to go on with, and the state. The record
is kept from a run that returned it, or it is read anew. -/
inductive Reached (common : Regrouping) (cache : ProgressCache) : Record → Site.Diary → Prop where
  | start {state : Site.Diary} : cache.Tells state.cache common.partition common.start →
      Reached common cache common.start state
  | kept {record : Record} {summary : UploadSummary} {handle : PartitionHandle}
      {before after : Site.Diary} : Reached common cache record before →
      common.Runs cache record before (.done (.ok (summary, handle))) after →
        Reached common cache handle.record after
  | reopened {record : Record} {found : Option Record}
      {left : Job Site (Except PipelineFault (UploadSummary × PartitionHandle))}
      {before after : Site.Diary} : Reached common cache record before →
      common.Runs cache record before left after →
      cache.load after.cache common.partition = .ok found →
        Reached common cache (found.getD {}) after

variable (common : Regrouping)

def candidates : List FilePair :=
  (Source.inPartition common.remapper common.partition
    (Source.pairs common.assets.dir common.assets.entries)).toOption.getD []

def pending : List FilePair := common.start.pendingPairs common.candidates

def item? (pair : FilePair) (key : LocalKey) : Option Item := do
  let image ← common.assets.file pair.image
  let bytes ← common.assets.file pair.metadata
  let manifest ← (Source.readManifest pair bytes).toOption
  pure ⟨(common.locators pair.key image manifest).2, manifest.name,
    ((common.start.get? key).map Item.onChain).getD false⟩

structure Enters (pair : FilePair) (key : LocalKey) (record : Record) : Prop where
  lies : common.remapper.locate pair.key = .ok (common.partition, key)
  vacant : ∀ item, common.start.get? key = some item → item.link = ""
  held : record.get? key = common.item? pair key
  stored : ∃ item, record.get? key = some item ∧ item.link ≠ ""

structure Grows (record : Record) : Prop where
  program : record.program = common.start.program
  items : ∀ key, record.get? key = common.start.get? key ∨
    ∃ pair ∈ common.pending, common.Enters pair key record

variable {common} {record grown : Record} {pair : FilePair} {key : LocalKey}

theorem candidates_of_listedBy {conditions : Site.Conditions} {found : List FilePair}
    (supplies : common.assets.Supplies conditions)
    (listed : Source.ListedBy conditions.Lists common.assets.dir common.remapper common.partition
      found) : found = common.candidates := by
  obtain ⟨entries, lists, inside⟩ := listed
  rw [supplies.lists entries lists] at inside
  simp only [candidates, inside, Except.toOption, Option.getD_some]

theorem candidates_sublist :
    common.candidates.Sublist (Source.pairs common.assets.dir common.assets.entries) := by
  unfold candidates
  cases inside : Source.inPartition common.remapper common.partition
      (Source.pairs common.assets.dir common.assets.entries) with
  | error fault => exact List.nil_sublist _
  | ok found => exact Source.inPartition_sublist inside

theorem exists_key_of_candidate (member : pair ∈ common.candidates) :
    ∃ key, common.remapper.locate pair.key = .ok (common.partition, key) := by
  unfold candidates at member
  cases inside : Source.inPartition common.remapper common.partition
      (Source.pairs common.assets.dir common.assets.entries) with
  | error fault => simp [inside, Except.toOption] at member
  | ok found =>
      simp only [inside, Except.toOption, Option.getD_some] at member
      exact ((Source.mem_inPartition_iff inside pair).mp member).2

theorem eq_of_key_eq {other : FilePair} (member : pair ∈ common.candidates)
    (member' : other ∈ common.candidates) (same : pair.key = other.key) : pair = other := by
  have distinct := (Source.pairwise_pairs common.assets.dir common.assets.entries).sublist
    candidates_sublist
  have symmetric : Std.Symm fun one other : FilePair => one.key ≠ other.key :=
    ⟨fun _ _ => Ne.symm⟩
  by_contra different
  exact distinct.forall member member' different same

theorem number_of_item? {item : Item} (comes : common.item? pair key = some item) :
    Item.numberInName? item.name = some pair.key := by
  simp only [item?, bind, Option.bind_eq_some_iff, pure, Option.some.injEq] at comes
  obtain ⟨image, _, bytes, _, manifest, read, rfl⟩ := comes
  cases accepted : Source.readManifest pair bytes with
  | error fault => simp [accepted, Except.toOption] at read
  | ok found =>
      rw [accepted] at read
      cases read
      exact ((Source.readManifest_eq_ok_iff pair bytes _).mp accepted).2

theorem Grows.start : common.Grows common.start :=
  ⟨rfl, fun _ => Or.inl rfl⟩

theorem Grows.mem_pending (grows : common.Grows record)
    (later : pair ∈ record.pendingPairs common.candidates) : pair ∈ common.pending := by
  obtain ⟨candidate, missing⟩ := (Record.mem_pendingPairs_iff _ _ _).mp later
  refine (Record.mem_pendingPairs_iff _ _ _).mpr ⟨candidate, fun completed => missing ?_⟩
  obtain ⟨key, item, held, filled, named⟩ := (Record.contains_completedKeys_iff _ _).mp completed
  rcases grows.items key with same | ⟨other, _, enters⟩
  · exact (Record.contains_completedKeys_iff _ _).mpr ⟨key, item, same.trans held, filled, named⟩
  · exact absurd (enters.vacant item held) filled

theorem Grows.pending_or_enters (grows : common.Grows record) (member : pair ∈ common.pending) :
    pair ∈ record.pendingPairs common.candidates ∨ ∃ key, common.Enters pair key record := by
  obtain ⟨candidate, missing⟩ := (Record.mem_pendingPairs_iff _ _ _).mp member
  by_cases completed : record.completedKeys.contains (toString pair.key) = true
  · right
    obtain ⟨key, item, held, filled, named⟩ := (Record.contains_completedKeys_iff _ _).mp completed
    rcases grows.items key with same | ⟨other, among, enters⟩
    · refine absurd ((Record.contains_completedKeys_iff _ _).mpr ?_) missing
      exact ⟨key, item, same.symm.trans held, filled, named⟩
    · -- The item that has the pair's index in its name is that of a pair with this index.
      have number := number_of_item? (enters.held.symm.trans held)
      have text : Item.numberInName? item.name = some pair.key := by
        rw [Item.nameKey?] at named
        rw [Item.numberInName?, named, Option.bind_some, Text.readUInt64?_toString]
      rw [text, Option.some.injEq] at number
      have among := ((Record.mem_pendingPairs_iff _ _ _).mp among).1
      obtain rfl := eq_of_key_eq candidate among number
      exact ⟨key, enters⟩
  · exact Or.inl ((Record.mem_pendingPairs_iff _ _ _).mpr ⟨candidate, completed⟩)

def Comes (common : Regrouping) (pair : FilePair) (uploaded : UploadedPair) : Prop :=
  uploaded.key = pair.key ∧ ∀ key, common.item? pair key = some
    ⟨uploaded.link, uploaded.manifest.name, ((common.start.get? key).map Item.onChain).getD false⟩

theorem comes_of_deposits {conditions : Site.Conditions} {group : List FilePair}
    {uploaded : List UploadedPair} (supplies : common.assets.Supplies conditions)
    (located : ∀ prepared uploaded, conditions.Delivers prepared uploaded →
      uploaded = prepared.map (PreparedPair.storedUnder common.locators))
    (deposits : conditions.Deposits group uploaded) :
    List.Forall₂ common.Comes group uploaded := by
  obtain ⟨prepared, loaded, delivered⟩ := deposits
  rw [located prepared uploaded delivered, List.forall₂_map_right_iff]
  refine loaded.imp fun pair ready loads => ⟨loads.key, fun key => ?_⟩
  obtain ⟨bytes, read, accepted⟩ := loads.manifest
  have image := supplies.reads _ _ loads.image
  have document := supplies.reads _ _ read
  simp only [item?, image, document, accepted, Except.toOption, bind, Option.bind_some, pure,
    PreparedPair.storedUnder, loads.key]
  rfl

theorem Enters.of_get?_eq (enters : common.Enters pair key record)
    (same : grown.get? key = record.get? key) : common.Enters pair key grown :=
  ⟨enters.lies, enters.vacant, same.trans enters.held, same ▸ enters.stored⟩

section Deposit

variable {group : List FilePair} {uploaded : List UploadedPair}

theorem Enters.fills (enters : common.Enters pair key record)
    (fills : record.Fills common.remapper uploaded grown) : common.Enters pair key grown := by
  obtain ⟨item, held, filled⟩ := enters.stored
  apply enters.of_get?_eq
  rw [fills.kept_of_stored held filled, held]

theorem Grows.enters_of_fills {first : UploadedPair} (grows : common.Grows record)
    (pending : pair ∈ common.pending) (comes : common.Comes pair first)
    (member : first ∈ uploaded) (fills : record.Fills common.remapper uploaded grown) :
    ∃ key, common.Enters pair key grown := by
  obtain ⟨place, key, located, filled, empty, entry⟩ := fills.entered first member
  obtain ⟨known, lies⟩ := exists_key_of_candidate ((Record.mem_pendingPairs_iff _ _ _).mp pending).1
  rw [comes.1, lies] at located
  cases located
  have same : record.get? key = common.start.get? key := by
    refine (grows.items key).resolve_right ?_
    rintro ⟨other, _, enters⟩
    obtain ⟨item, held, stored⟩ := enters.stored
    exact stored (empty item held)
  rw [same] at empty entry
  exact ⟨key, lies, empty, entry.trans (comes.2 key).symm, _, entry, filled⟩

theorem Grows.fills (grows : common.Grows record)
    (comes : List.Forall₂ common.Comes group uploaded)
    (among : ∀ pair ∈ group, pair ∈ common.pending)
    (fills : record.Fills common.remapper uploaded grown) :
    common.Grows grown ∧ ∀ pair ∈ group, ∃ key, common.Enters pair key grown := by
  have entered : ∀ pair ∈ group, ∃ key, common.Enters pair key grown := by
    intro pair member
    obtain ⟨first, found, comes⟩ := exists_of_forall₂ comes pair member
    exact grows.enters_of_fills (among pair member) comes found fills
  refine ⟨⟨fills.program.trans grows.program, fun key => ?_⟩, entered⟩
  by_cases filled : ∃ first ∈ uploaded, ∃ place,
      common.remapper.locate first.key = .ok (place, key)
  · obtain ⟨first, member, place, lies⟩ := filled
    obtain ⟨pair, found, comes⟩ := exists_of_forall₂ comes.flip first member
    obtain ⟨known, enters⟩ := entered pair found
    rw [comes.1, enters.lies] at lies
    cases lies
    exact Or.inr ⟨pair, among pair found, enters⟩
  · have same : grown.get? key = record.get? key := by
      refine fills.kept key fun first member place lies => ?_
      exact filled ⟨first, member, place, lies⟩
    rcases grows.items key with earlier | ⟨pair, member, enters⟩
    · exact Or.inl (same.trans earlier)
    · exact Or.inr ⟨pair, member, enters.of_get?_eq same⟩

end Deposit

theorem Grows.unique {other : Record} (grows : common.Grows record) (grows' : common.Grows other)
    (whole : ∀ pair ∈ common.pending, ∃ key, common.Enters pair key record)
    (whole' : ∀ pair ∈ common.pending, ∃ key, common.Enters pair key other) : record = other := by
  have entries : ∀ key, record.get? key = other.get? key := by
    intro key
    by_cases lies : ∃ pair ∈ common.pending,
        common.remapper.locate pair.key = .ok (common.partition, key)
    · obtain ⟨pair, member, lies⟩ := lies
      obtain ⟨one, enters⟩ := whole pair member
      obtain ⟨two, enters'⟩ := whole' pair member
      have first := enters.lies
      have second := enters'.lies
      rw [lies] at first second
      cases first
      cases second
      exact enters.held.trans enters'.held.symm
    · have kept : ∀ {found : Record}, common.Grows found →
          found.get? key = common.start.get? key := by
        intro found grows
        refine (grows.items key).resolve_right ?_
        rintro ⟨pair, member, enters⟩
        exact lies ⟨pair, member, enters.lies⟩
      exact (kept grows).trans (kept grows').symm
  obtain ⟨program, items⟩ := record
  obtain ⟨program', items'⟩ := other
  have same : program = program' := grows.program.trans grows'.program.symm
  have items : items = items' := Std.ExtTreeMap.ext_getElem? fun {key} => entries key
  rw [same, items]

structure Stands (common : Regrouping) (cache : ProgressCache) (groups : List (List FilePair))
    (record : Record) (state : Site.Diary) : Prop where
  tells : cache.Tells state.cache common.partition record
  grows : common.Grows record
  among : ∀ pair ∈ groups.flatten, pair ∈ common.pending
  left : ∀ pair ∈ common.pending, pair ∈ groups.flatten ∨ ∃ key, common.Enters pair key record

def Told (common : Regrouping) (cache : ProgressCache) (state : Site.Diary) : Prop :=
  ∃ record, cache.Tells state.cache common.partition record ∧ common.Grows record

theorem uploadHandle_stands {pipeline : Pipeline} {conditions : Site.Conditions}
    {state : Site.Diary} (grid : pipeline.remapper = common.remapper)
    (dir : pipeline.assetsDir = common.assets.dir) (supplies : common.assets.Supplies conditions)
    (located : ∀ prepared uploaded, conditions.Delivers prepared uploaded →
      uploaded = prepared.map (PreparedPair.storedUnder common.locators))
    (tells : pipeline.cache.Tells state.cache common.partition record)
    (grows : common.Grows record) :
    Work.Meets conditions.Answers (common.Told pipeline.cache)
      (fun result after => ∃ left,
        common.Stands pipeline.cache left result.2.record after ∧
        (result.1.interrupted = false → left = []))
      (fun _ _ => True) (pipeline.uploadHandle ⟨common.partition, record⟩) state := by
  refine (Pipeline.uploadHandle_meets
    (fun _ groups => common.Stands pipeline.cache groups)
    (fun _ _ record _ stands => ⟨record, stands.tells, stands.grows⟩)
    (fun _ _ _ _ stands => stands.tells) ?_ ?_ (fun _ => trivial) (fun _ _ _ _ _ _ => trivial)
    (fun _ _ _ => trivial) ⟨record, tells, grows⟩).weaken ?_ fun _ _ _ => id
  · intro found groups listed flat
    rw [grid, dir] at listed
    obtain rfl := candidates_of_listedBy supplies listed
    refine ⟨tells, grows, fun pair member => ?_, fun pair member => ?_⟩
    · rw [flat] at member
      exact grows.mem_pending member
    · rw [flat]
      exact grows.pending_or_enters member
  · intro _ group rest record state uploaded grown bytes stands deposits fills renews
    rw [grid] at fills
    have comes := comes_of_deposits supplies located deposits
    have among : ∀ pair ∈ group, pair ∈ common.pending := fun pair member =>
      stands.among pair (List.flatten_cons ▸ List.mem_append_left _ member)
    obtain ⟨grows, entered⟩ := stands.grows.fills comes among fills
    refine ⟨renews.tells, grows, fun pair member => ?_, fun pair member => ?_⟩
    · exact stands.among pair (List.flatten_cons ▸ List.mem_append_right _ member)
    · rcases stands.left pair member with waiting | ⟨key, enters⟩
      · rw [List.flatten_cons] at waiting
        rcases List.mem_append.mp waiting with now | later
        · exact Or.inr (entered pair now)
        · exact Or.inl later
      · exact Or.inr ⟨key, enters.fills fills⟩
  · rintro ⟨summary, handle⟩ after _ ⟨_, _, left, _, stands, whole⟩
    exact ⟨left, stands, whole⟩

section Histories

variable {cache : ProgressCache} {before after : Site.Diary}
  {left : Job Site (Except PipelineFault (UploadSummary × PartitionHandle))}

theorem Runs.stands (runs : common.Runs cache record before left after)
    (tells : cache.Tells before.cache common.partition record) (grows : common.Grows record) :
    common.Told cache after ∧ ∀ summary handle, left = .done (.ok (summary, handle)) →
      ∃ left, common.Stands cache left handle.record after ∧
        (summary.interrupted = false → left = []) := by
  obtain ⟨pipeline, conditions, rfl, grid, dir, supplies, located, leads⟩ := runs
  obtain ⟨told, ended⟩ :=
    (uploadHandle_stands grid dir supplies located tells grows).of_leads leads
  exact ⟨told, fun summary handle same => ended _ same⟩

theorem Reached.tells (reached : common.Reached cache record after) :
    cache.Tells after.cache common.partition record ∧ common.Grows record := by
  induction reached with
  | start tells => exact ⟨tells, .start⟩
  | kept _ runs ih =>
      obtain ⟨_, stands, _⟩ := (runs.stands ih.1 ih.2).2 _ _ rfl
      exact ⟨stands.tells, stands.grows⟩
  | reopened _ runs loaded ih =>
      obtain ⟨record, tells, grows⟩ := (runs.stands ih.1 ih.2).1
      have same : _ = record := ProgressCache.Tells.unique ⟨tells.opens, _, loaded, rfl⟩ tells
      rw [same]
      exact ⟨tells, grows⟩

/-- Two histories that begin with the same record, however they are cut into runs and groups and
whatever fails in them, have the same record in the cache when their last run was not
interrupted. -/
theorem same_record_of_whole {cache other : ProgressCache} {record held : Record}
    {before after start finish : Site.Diary} {summary total : UploadSummary}
    {handle ended : PartitionHandle}
    (reached : common.Reached cache record before)
    (runs : common.Runs cache record before (.done (.ok (summary, handle))) after)
    (whole : summary.interrupted = false)
    (reached' : common.Reached other held start)
    (runs' : common.Runs other held start (.done (.ok (total, ended))) finish)
    (whole' : total.interrupted = false) :
    handle.record = ended.record ∧
      (∃ found, cache.load after.cache common.partition = .ok found ∧
        found.getD {} = handle.record) ∧
      ∃ found, other.load finish.cache common.partition = .ok found ∧
        found.getD {} = ended.record := by
  have completes : ∀ {cache : ProgressCache} {record : Record} {before after : Site.Diary}
      {summary : UploadSummary} {handle : PartitionHandle},
      common.Reached cache record before →
      common.Runs cache record before (.done (.ok (summary, handle))) after →
      summary.interrupted = false → common.Stands cache [] handle.record after := by
    intro cache record before after summary handle reached runs whole
    obtain ⟨tells, grows⟩ := reached.tells
    obtain ⟨left, stands, none⟩ := (runs.stands tells grows).2 _ _ rfl
    rw [none whole] at stands
    exact stands
  have stands := completes reached runs whole
  have stands' := completes reached' runs' whole'
  refine ⟨?_, stands.tells.loads, stands'.tells.loads⟩
  refine stands.grows.unique stands'.grows (fun pair member => ?_) fun pair member => ?_
  · exact (stands.left pair member).resolve_left (by simp)
  · exact (stands'.left pair member).resolve_left (by simp)

def sample : Regrouping where
  remapper := Site.Stage.pipeline.remapper
  partition := ⟨0, 0⟩
  assets := ⟨"assets", Site.Stage.sample.entries, fun path => Site.Stage.sample.files.lookup path⟩
  locators := Site.Stage.sample.locators
  start := {}

theorem runs_sample (refused : List GlobalIndex) (bundled : Bool) (record : Record)
    (state : Site.Diary) :
    let stage := { Site.Stage.sample with refused }
    let ended := stage.perform
      (Pipeline.uploadHandle { Site.Stage.pipeline with bundled } ⟨⟨0, 0⟩, record⟩) state
    sample.Runs Site.Stage.pipeline.cache record state (.done ended.1) ended.2 :=
  ⟨{ Site.Stage.pipeline with bundled }, ({ Site.Stage.sample with refused }).conditions, rfl, rfl,
    rfl, ⟨fun _ same => same, fun _ _ same => same⟩, fun _ _ same => same,
    ({ Site.Stage.sample with refused }).leads_perform _ _⟩

/-- Both items at once, or one by one with the second of them refused at first. -/
theorem same_record_after_refusal :
    ∃ (handle ended : PartitionHandle) (after finish : Site.Diary),
      handle.record.keys = [0, 1] ∧ handle.record = ended.record ∧
      (∃ found, Site.Stage.pipeline.cache.load after.cache ⟨0, 0⟩ = .ok found ∧
        found.getD {} = handle.record) ∧
      ∃ found, Site.Stage.pipeline.cache.load finish.cache ⟨0, 0⟩ = .ok found ∧
        found.getD {} = ended.record := by
  have started : sample.Reached Site.Stage.pipeline.cache {} {} :=
    .start (ProgressCache.tells_none _ _)
  let cut : Site.Diary := (Site.Stage.perform { Site.Stage.sample with refused := [1] }
    (Site.Stage.pipeline.uploadHandle ⟨⟨0, 0⟩, {}⟩) {}).2
  let found : Option Record :=
    (Site.Stage.pipeline.cache.load cut.cache ⟨0, 0⟩).toOption.join
  have resumed : sample.Reached Site.Stage.pipeline.cache (found.getD {}) cut :=
    .reopened started (runs_sample [1] false {} {}) (by decide +kernel)
  obtain ⟨first, after, runs, whole⟩ : ∃ result after,
      sample.Runs Site.Stage.pipeline.cache {} {} (.done result) after ∧
      result.toOption.map (fun ended => (ended.1.interrupted, ended.2.record.keys))
        = some (false, [0, 1]) :=
    ⟨_, _, runs_sample [] true {} {}, by decide +kernel⟩
  obtain ⟨second, finish, runs', whole'⟩ : ∃ result after,
      sample.Runs Site.Stage.pipeline.cache (found.getD {}) cut (.done result) after ∧
      result.toOption.map (fun ended => (ended.1.interrupted, ended.1.pending)) = some (false, 1) :=
    ⟨_, _, runs_sample [] false (found.getD {}) cut, by decide +kernel⟩
  cases first with
  | error fault => cases whole
  | ok first =>
      cases second with
      | error fault => cases whole'
      | ok second =>
          simp only [Except.toOption, Option.map_some, Option.some.injEq, Prod.mk.injEq]
            at whole whole'
          have same := same_record_of_whole started runs whole.1 resumed runs' whole'.1
          exact ⟨first.2, second.2, after, finish, whole.2, same⟩

end Histories

end Regrouping

end Cadastre
