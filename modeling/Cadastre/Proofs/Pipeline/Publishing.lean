import Cadastre.Proofs.Pipeline.Writing

/-!
The commands keep the books. An upload that is not interrupted records all candidates of the
partition, and a publication of which no window fails has them all on chain.
-/

namespace Cadastre

open Site (Kept)

namespace Pipeline

variable {terms : Site.Terms} {pipeline : Pipeline} {state : Site.State} {handle : PartitionHandle}
  {partition : Partition}

/-- Where an upload stands: the record has grown, and the candidates are in it or are still to
come. -/
structure Grown (pipeline : Pipeline) (start : PartitionHandle) (candidates : List FilePair)
    (groups : List (List FilePair)) (record : Record) : Prop where
  grows : start.record.GrowsTo pipeline.remapper start.partition record
  known : ∀ pair ∈ candidates, pair ∈ groups.flatten ∨
    pair.RecordedIn pipeline.remapper start.partition record
  inside : ∀ pair ∈ groups.flatten, ∃ key,
    pipeline.remapper.locate pair.key = .ok (start.partition, key)

theorem Grown.start {candidates : List FilePair} {groups : List (List FilePair)}
    {entries : List DirectoryEntry} (saved : pipeline.Saved handle state)
    (listed : Source.inPartition pipeline.remapper handle.partition
      (Source.pairs pipeline.assetsDir entries) = .ok candidates)
    (flat : groups.flatten = handle.record.pendingPairs candidates) :
    Grown pipeline handle candidates groups handle.record := by
  refine ⟨.refl _, fun pair member => ?_, fun pair member => ?_⟩
  · by_cases done : handle.record.completedKeys.contains (toString pair.key) = true
    · exact Or.inr (Record.recordedIn_of_completed (fun key item held => saved.placed held) done)
    · rw [flat, Record.mem_pendingPairs_iff]
      exact Or.inl ⟨member, done⟩
  · rw [flat, Record.mem_pendingPairs_iff] at member
    exact ((Source.mem_inPartition_iff listed pair).mp member.1).2

theorem Grown.step {candidates group : List FilePair} {rest : List (List FilePair)}
    {record grown : Record} (before : Grown pipeline handle candidates (group :: rest) record)
    (grows : record.GrowsTo pipeline.remapper handle.partition grown)
    (all : ∀ pair ∈ group, pair.RecordedIn pipeline.remapper handle.partition grown) :
    Grown pipeline handle candidates rest grown := by
  refine ⟨before.grows.trans grows, fun pair member => ?_, fun pair member => ?_⟩
  · rcases before.known pair member with coming | recorded
    · rcases List.mem_append.mp (List.flatten_cons ▸ coming) with now | later
      · exact Or.inr (all pair now)
      · exact Or.inl later
    · exact Or.inr (recorded.grows grows)
  · exact before.inside pair (List.flatten_cons ▸ List.mem_append_right _ member)

def Stopped (pipeline : Pipeline) (partition : Partition) (record : Record)
    (fault : PipelineFault) : Site.State → Prop :=
  if fault.isFatal then pipeline.Sound else pipeline.Saved ⟨partition, record⟩

theorem kept_stopped (record : Record) (fault : PipelineFault) :
    Kept pipeline.Sound (Stopped pipeline partition record fault) := by
  unfold Stopped
  split
  · exact kept_sound
  · exact kept_saved _

theorem Stopped.of_saved {record : Record} (fault : PipelineFault)
    (saved : pipeline.Saved ⟨partition, record⟩ state) :
    Stopped pipeline partition record fault state := by
  unfold Stopped
  split
  · exact saved.sound
  · exact saved

theorem uploadGroup_works {candidates group : List FilePair} {rest : List (List FilePair)}
    {record : Record} {batch : Nat}
    (stands : Grown pipeline handle candidates (group :: rest) record)
    (saved : pipeline.Saved ⟨handle.partition, record⟩ state) :
    Work.Safe terms pipeline.Sound
      (fun result state => result.1.uploaded.length = group.length ∧
        pipeline.Saved ⟨handle.partition, result.2⟩ state ∧
        Grown pipeline handle candidates rest result.2)
      (Stopped pipeline handle.partition record)
      (pipeline.uploadGroup ⟨handle.partition, record⟩ batch group) state := by
  have inside : ∀ pair ∈ group, ∃ key,
      pipeline.remapper.locate pair.key = .ok (handle.partition, key) := fun pair member =>
    stands.inside pair (List.flatten_cons ▸ List.mem_append_left _ member)
  refine uploadGroup_safe (pipeline.Saved ⟨handle.partition, record⟩)
    (fun grown state => pipeline.Saved ⟨handle.partition, grown⟩ state ∧
      Grown pipeline handle candidates rest grown)
    (kept_saved _) (kept_saved _) (fun _ => (kept_saved _).and (Site.stable_const _))
    (fun fault => kept_stopped record fault) (fun state saved => saved.sound.booked)
    ?_ ?_ ?_ ?_ ?_ saved
  · rintro state ⟨book, ledger, books, page⟩
    exact ⟨book, ledger, ⟨books.holds, books.opened, books.agrees, books.apart, books.begun,
      books.written⟩, page⟩
  · exact fun uploaded fault state _ _ saved => saved.sound
  · intro uploaded grown state book bytes stored recorded saved holds holds'
    obtain ⟨grows, all⟩ := recordPairs_grows stored inside
      (fun key item held => saved.placed held) recorded
    exact ⟨saved.grows grows holds holds', stands.step grows all⟩
  · exact fun fault state saved _ => Stopped.of_saved fault saved
  · rintro reason state (saved | ⟨grown, saved, _⟩) _
    · exact saved.sound
    · exact saved.sound

structure Uploads (terms : Site.Terms) (pipeline : Pipeline) (before : PartitionHandle)
    (summary : UploadSummary) (after : PartitionHandle) : Prop where
  place : after.partition = before.partition
  whole : summary.interrupted = false → ∃ candidates,
    Source.Lists terms pipeline.assetsDir pipeline.remapper before.partition candidates ∧
      ∀ pair ∈ candidates, pair.RecordedIn pipeline.remapper before.partition after.record

theorem uploadHandle_works (saved : pipeline.Saved handle state) :
    Works terms pipeline
      (fun result state => pipeline.Saved result.2 state ∧
        Uploads terms pipeline handle result.1 result.2)
      (pipeline.uploadHandle handle) state := by
  refine (uploadHandle_safe
    (fun candidates groups record state =>
      pipeline.Saved ⟨handle.partition, record⟩ state ∧
        Grown pipeline handle candidates groups record)
    (Stopped pipeline handle.partition) (kept_saved handle)
    (fun _ _ _ => (kept_saved _).and (Site.stable_const _)) kept_stopped (fun _ => kept_sound)
    ?_ ?_ ?_ (fun _ _ saved _ => saved.sound) saved).weaken ?_ fun _ _ => id
  · rintro candidates groups state saved ⟨entries, _, listed⟩ flat
    exact ⟨saved, Grown.start saved listed flat⟩
  · rintro candidates batch group rest record state _ ⟨saved, grown⟩
    exact uploadGroup_works grown saved
  · intro record fault state fatal stopped
    rw [Stopped, if_pos fatal] at stopped
    exact stopped
  · rintro _ state (⟨listed, saved, grown⟩ | ⟨mild, stopped⟩)
    · refine ⟨saved, rfl, fun _ => ⟨_, listed, fun pair member => ?_⟩⟩
      exact (grown.known pair member).resolve_left (by simp)
    · rw [Stopped, if_neg (by simp [mild])] at stopped
      exact ⟨stopped, rfl, nofun⟩

theorem openPartition_works (sound : pipeline.Sound state) :
    Works terms pipeline
      (fun handle state => handle.partition = partition ∧ pipeline.Saved handle state)
      (pipeline.openPartition partition) state := by
  refine (openPartition_safe kept_sound (fun _ => kept_sound) (fun state sound => sound.booked)
    (fun _ _ sound _ => sound) sound).weaken ?_ fun _ _ => id
  rintro handle state ⟨⟨book, ledger, books⟩, rfl, found, loaded, page⟩
  exact ⟨rfl, book, ledger, books, (books.holds.load_eq loaded).symm.trans page.symm⟩

theorem upload_works (sound : pipeline.Sound state) :
    Works terms pipeline (fun _ => pipeline.Sound) (pipeline.upload partition) state := by
  refine Work.Safe.bind _ (fun _ => kept_sound) (openPartition_works sound) ?_
  rintro handle after ⟨_, saved⟩
  refine Work.Safe.bind _ (fun _ => kept_sound) (uploadHandle_works saved) ?_
  rintro ⟨summary, later⟩ last ⟨saved, _⟩
  exact Work.Safe.pure kept_sound saved.sound

theorem sync_works (sound : pipeline.Sound state) :
    Works terms pipeline (fun _ => pipeline.Sound) (pipeline.sync partition) state := by
  refine Work.Safe.bind _ (fun _ => kept_sound) (openPartition_works sound) ?_
  rintro handle after ⟨_, saved⟩
  refine Work.Safe.bind _ (fun _ => kept_sound) (syncHandle_works saved) ?_
  rintro ⟨report, later⟩ last ⟨saved, _⟩
  exact Work.Safe.pure kept_sound saved.sound

/-- What a publication means of which nothing failed: all the pairs that some listing has in the
partition are on chain. -/
def Publishes (terms : Site.Terms) (pipeline : Pipeline) (partition : Partition)
    (report : PublishReport) (state : Site.State) : Prop :=
  report.upload.interrupted = false →
    (∀ window ∈ report.sync.windows, window.outcome.isFailed = false) →
    ∃ record candidates,
      Site.Has pipeline.cache pipeline.remapper partition record state ∧
      Source.Lists terms pipeline.assetsDir pipeline.remapper partition candidates ∧
      (∀ pair ∈ candidates, pair.RecordedIn pipeline.remapper partition record) ∧
      ∀ key item, record.get? key = some item → item.onChain = true

theorem publish_works (sound : pipeline.Sound state) :
    Works terms pipeline (Publishes terms pipeline partition) (pipeline.publish partition)
      state := by
  refine Work.Safe.bind _ (fun _ => kept_sound) (openPartition_works sound) ?_
  rintro handle after ⟨rfl, saved⟩
  refine Work.Safe.bind _ (fun _ => kept_sound) (uploadHandle_works saved) ?_
  rintro ⟨summary, grown⟩ later ⟨saved, uploads⟩
  dsimp only
  split
  · rename_i interrupted
    refine Work.Safe.bind (fun _ => pipeline.Sound) (fun _ => kept_sound) ?_ ?_
    · refine Work.Safe.bind _ (fun _ => kept_sound) (now_safe kept_sound saved.sound) ?_
      exact fun startedAt state sound => Work.Safe.pure kept_sound sound
    · intro report last sound
      refine Work.Safe.pure_of kept_sound sound fun state _ whole => ?_
      exact absurd (interrupted.symm.trans whole) (by decide)
  · rename_i whole
    refine Work.Safe.bind _ (fun _ => kept_sound) (syncHandle_works saved) ?_
    rintro ⟨report, synced⟩ last ⟨saved, syncs⟩
    refine Work.Safe.pure_of (kept_saved synced) saved fun state saved _ clean => ?_
    obtain ⟨candidates, listed, all⟩ := uploads.whole (Bool.not_eq_true _ ▸ whole)
    have place : synced.partition = handle.partition := syncs.place.trans uploads.place
    refine ⟨synced.record, candidates, place ▸ saved, listed, fun pair member => ?_,
      syncs.complete clean⟩
    obtain ⟨key, item, located, held, filled, named⟩ := all pair member
    have entry := syncs.entry key
    rw [held] at entry
    obtain ⟨marked, found, same⟩ := Option.map_eq_some_iff.mp entry
    simp only [Item.entry, RegistryEntry.mk.injEq] at same
    exact ⟨key, marked, located, found, by rw [same.2]; exact filled, by rw [same.1]; exact named⟩

end Pipeline

end Cadastre
