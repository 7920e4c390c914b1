import Cadastre.Proofs.Pipeline.Conduct
import Cadastre.Proofs.Pipeline.Recording

/-!
Uploads at a site of any kind. A group that is stored fills the record at the keys of its pairs;
the record is saved, and an assertion on the groups that are left goes from group to group.
-/

namespace Cadastre

theorem exists_of_forall₂ {α β : Type} {related : α → β → Prop} {left : List α} {right : List β}
    (pairwise : List.Forall₂ related left right) :
    ∀ value ∈ left, ∃ other ∈ right, related value other := by
  intro value member
  induction pairwise with
  | nil => cases member
  | cons first _ ih =>
      rcases List.mem_cons.mp member with rfl | later
      · exact ⟨_, List.mem_cons_self, first⟩
      · obtain ⟨other, found, same⟩ := ih later
        exact ⟨other, List.mem_cons_of_mem _ found, same⟩

/-- What recording stored pairs makes of a record, in which no link was at their keys. -/
structure Record.Fills (remapper : Remapper) (uploaded : List UploadedPair)
    (record grown : Record) : Prop where
  program : grown.program = record.program
  entered : ∀ pair ∈ uploaded, ∃ place key, remapper.locate pair.key = .ok (place, key) ∧
    pair.link ≠ "" ∧ (∀ item, record.get? key = some item → item.link = "") ∧
    grown.get? key = some
      ⟨pair.link, pair.manifest.name, ((record.get? key).map Item.onChain).getD false⟩
  kept : ∀ key, (∀ pair ∈ uploaded, ∀ place, remapper.locate pair.key ≠ .ok (place, key)) →
    grown.get? key = record.get? key

namespace Pipeline

theorem fills_of_recordPairs {remapper : Remapper} {uploaded : List UploadedPair}
    {record grown : Record} (recorded : recordPairs remapper record uploaded = .ok grown) :
    record.Fills remapper uploaded grown := by
  induction uploaded generalizing record with
  | nil =>
      cases recorded
      exact ⟨rfl, nofun, fun _ _ => rfl⟩
  | cons pair rest ih =>
      rw [recordPairs] at recorded
      cases located : remapper.locate pair.key with
      | error fault => simp [located] at recorded
      | ok found =>
          obtain ⟨place, key⟩ := found
          rw [located] at recorded
          rcases step : record.recordUpload key pair.link pair.manifest.name with
            ⟨fault | done, next⟩
          · simp [step] at recorded
          simp only [step] at recorded
          obtain ⟨vacant, filled, rfl⟩ := (Record.recordUpload_eq_ok_iff _ _ _ _ _).mp step
          have fills := ih recorded
          have alone : ∀ other ∈ rest, ∀ elsewhere,
              remapper.locate other.key ≠ .ok (elsewhere, key) := by
            intro other member elsewhere same
            obtain ⟨_, key', located', _, empty, _⟩ := fills.entered other member
            rw [same] at located'
            cases located'
            exact filled (empty _ (Record.get?_put_self _ _ _))
          refine ⟨fills.program, fun other member => ?_, fun other apart => ?_⟩
          · rcases List.mem_cons.mp member with rfl | later
            · refine ⟨place, key, located, filled, fun item held => ?_, ?_⟩
              · rw [held] at vacant
                exact vacant
              · rw [fills.kept key alone, Record.get?_put_self]
                cases record.get? key <;> rfl
            · obtain ⟨there, key', located', link, empty, entry⟩ := fills.entered other later
              have different : key ≠ key' := by
                rintro rfl
                exact alone other later there located'
              rw [Record.get?_put_of_ne _ _ different] at empty entry
              exact ⟨there, key', located', link, empty, entry⟩
          · have different : key ≠ other := by
              rintro rfl
              exact apart pair List.mem_cons_self place located
            rw [fills.kept other fun next later => apart next (List.mem_cons_of_mem _ later),
              Record.get?_put_of_ne _ _ different]

end Pipeline

namespace Record.Fills

variable {remapper : Remapper} {uploaded : List UploadedPair} {record grown : Record}
  {key : LocalKey} {item : Item}

theorem kept_of_stored (fills : record.Fills remapper uploaded grown)
    (held : record.get? key = some item) (filled : item.link ≠ "") :
    grown.get? key = some item := by
  rw [fills.kept key, held]
  intro pair member place located
  obtain ⟨_, other, located', _, empty, _⟩ := fills.entered pair member
  rw [located] at located'
  cases located'
  exact filled (empty item held)

theorem cases (fills : record.Fills remapper uploaded grown) (held : grown.get? key = some item) :
    (item.link ≠ "" ∧ item.onChain = ((record.get? key).map Item.onChain).getD false) ∨
      record.get? key = some item := by
  by_cases entered : ∃ pair ∈ uploaded, ∃ place, remapper.locate pair.key = .ok (place, key)
  · obtain ⟨pair, member, place, located⟩ := entered
    obtain ⟨_, other, located', filled, _, entry⟩ := fills.entered pair member
    rw [located] at located'
    cases located'
    rw [held] at entry
    cases entry
    exact Or.inl ⟨filled, rfl⟩
  · right
    rw [← fills.kept key fun pair member place located => entered ⟨pair, member, place, located⟩]
    exact held

theorem completed {text : String} (fills : record.Fills remapper uploaded grown)
    (completed : record.completedKeys.contains text = true) :
    grown.completedKeys.contains text = true := by
  obtain ⟨key, item, held, filled, named⟩ := (contains_completedKeys_iff _ _).mp completed
  exact (contains_completedKeys_iff _ _).mpr
    ⟨key, item, fills.kept_of_stored held filled, filled, named⟩

end Record.Fills

def Site.Conditions.Deposits (conditions : Site.Conditions) (group : List FilePair)
    (uploaded : List UploadedPair) : Prop :=
  ∃ prepared, List.Forall₂ (Source.LoadedAs conditions.Reads) group prepared ∧
    conditions.Delivers prepared uploaded

theorem Site.Conditions.Deposits.length_eq {conditions : Site.Conditions} {group : List FilePair}
    {uploaded : List UploadedPair} (deposits : conditions.Deposits group uploaded) :
    uploaded.length = group.length := by
  obtain ⟨prepared, loaded, delivered⟩ := deposits
  rw [(conditions.stores _ _ delivered).length_eq, loaded.length_eq]

def PipelineFault.IsCache (fault : PipelineFault) : Prop := ∃ reason, fault = .cache reason

theorem PipelineFault.not_isCache {fault : PipelineFault} (mild : fault.isFatal = false) :
    ¬ fault.IsCache := by
  rintro ⟨reason, rfl⟩
  cases mild

namespace Pipeline

variable {conditions : Site.Conditions} {inv : Site.Diary → Prop}
  {fails : PipelineFault → Site.Diary → Prop} {state : Site.Diary} {pipeline : Pipeline}
  {partition : Partition} {handle : PartitionHandle}

theorem openPartition_meets (inside : inv state) (failing : ∀ fault, fails fault state) :
    Work.Meets conditions.Answers inv
      (fun handle after => after = state ∧ handle.partition = partition ∧
        pipeline.remapper.layout.contains partition = true ∧
        ∃ found, pipeline.cache.load state.cache partition = .ok found ∧
          handle.record = found.getD {}) fails
      (pipeline.openPartition partition) state := by
  rw [openPartition]
  cases known : pipeline.remapper.layout.contains partition with
  | false =>
      refine Work.Meets.bind (fun _ _ => False) (Work.Meets.throw inside (failing _)) ?_
      exact fun _ _ _ => nofun
  | true =>
      refine Work.Meets.bind _ (ProgressCache.readRecord_meets inside fun fault => failing _) ?_
      rintro found after inside ⟨loaded, rfl⟩
      exact Work.Meets.pure inside ⟨rfl, rfl, rfl, found, loaded, rfl⟩

theorem plan_meets (inside : inv state) (failing : ∀ fault, fails fault state) :
    Work.Meets conditions.Answers inv
      (fun plan after => after = state ∧ ∃ candidates,
        Source.ListedBy conditions.Lists pipeline.assetsDir pipeline.remapper handle.partition
          candidates ∧
        pipeline.groupsOf (handle.record.pendingPairs candidates) = .ok plan.groups ∧
        plan.pending = (handle.record.pendingPairs candidates).length) fails
      (pipeline.plan handle) state := by
  refine Work.Meets.bind _ (Source.candidates_meets inside failing) ?_
  rintro candidates after inside ⟨listed, rfl⟩
  refine Work.Meets.bind (fun groups last =>
    pipeline.groupsOf (handle.record.pendingPairs candidates) = .ok groups ∧ last = after)
    (Work.Meets.check inside (fun groups grouped => ⟨grouped, rfl⟩) fun fault _ => failing _) ?_
  rintro groups last inside ⟨grouped, rfl⟩
  exact Work.Meets.pure inside ⟨rfl, candidates, listed, grouped, rfl⟩

theorem storeGroup_meets {group : List FilePair} (inside : inv state)
    (failing : ∀ fault, fails fault state) :
    Work.Meets conditions.Answers inv
      (fun uploaded after => conditions.Deposits group uploaded ∧ after = state) fails
      (storeGroup group) state := by
  refine Work.Meets.bind _ (Source.loadAll_meets group inside failing) ?_
  rintro prepared after inside ⟨loaded, rfl⟩
  refine (storePairs_meets inside failing).weaken ?_ fun _ _ _ => id
  rintro uploaded last _ ⟨delivered, rfl⟩
  exact ⟨⟨prepared, loaded, delivered⟩, rfl⟩

/-- A fault that is not of the cache comes before anything is saved. -/
theorem uploadGroup_meets {batch : Nat} {group : List FilePair}
    (tells : pipeline.cache.Tells state.cache handle.partition handle.record) (inside : inv state)
    (saves : ∀ uploaded grown bytes, conditions.Deposits group uploaded →
      handle.record.Fills pipeline.remapper uploaded grown →
      pipeline.cache.Renews handle.partition grown state.cache (some bytes) →
        inv (state.save bytes)) :
    Work.Meets conditions.Answers inv
      (fun result after => ∃ bytes, conditions.Deposits group result.1.uploaded ∧
        handle.record.Fills pipeline.remapper result.1.uploaded result.2 ∧
        pipeline.cache.Renews handle.partition result.2 state.cache (some bytes) ∧
        after = state.save bytes)
      (fun fault after => ¬ fault.IsCache → after = state)
      (pipeline.uploadGroup handle batch group) state := by
  refine Work.Meets.bind _ (storeGroup_meets inside fun _ _ => rfl) ?_
  rintro uploaded after inside ⟨deposits, rfl⟩
  refine Work.Meets.bind (fun grown last =>
    recordPairs pipeline.remapper handle.record uploaded = .ok grown ∧ last = after)
    (Work.Meets.check inside (fun grown recorded => ⟨recorded, rfl⟩) fun _ _ _ => rfl) ?_
  rintro grown last inside ⟨recorded, rfl⟩
  have fills := fills_of_recordPairs recorded
  refine Work.Meets.bind _ (ProgressCache.writeRecord_meets tells inside
    (fun bytes renews => saves uploaded grown bytes deposits fills renews)
    fun reason _ other => absurd ⟨reason, rfl⟩ other) ?_
  rintro _ saved inside ⟨bytes, renews, rfl⟩
  exact Work.Meets.pure inside ⟨bytes, deposits, fills, renews, rfl⟩

section Loop

variable {stands : List (List FilePair) → Record → Site.Diary → Prop}

theorem uploadGroups_meets
    (inside : ∀ groups record state, stands groups record state → inv state)
    (tells : ∀ groups record state, stands groups record state →
      pipeline.cache.Tells state.cache partition record)
    (deposits : ∀ group rest record state uploaded grown bytes,
      stands (group :: rest) record state → conditions.Deposits group uploaded →
      record.Fills pipeline.remapper uploaded grown →
      pipeline.cache.Renews partition grown state.cache (some bytes) →
        stands rest grown (state.save bytes))
    (batch : Nat) (groups : List (List FilePair)) (record : Record)
    (holds : stands groups record state) :
    Job.Ends conditions.Answers inv
      (fun run after => match run.fault with
        | none => run.uploaded = groups.flatten.length ∧ stands [] run.record after
        | some fault => ¬ fault.IsCache → ∃ left, stands left run.record after)
      (pipeline.uploadGroups ⟨partition, record⟩ batch groups) state := by
  induction groups generalizing batch record state with
  | nil => exact ⟨inside _ _ _ holds, rfl, holds⟩
  | cons group rest ih =>
      rw [uploadGroups]
      refine Job.Ends.bind (uploadGroup_meets (tells _ _ _ holds) (inside _ _ _ holds)
        fun uploaded grown bytes deposited fills renews => inside _ _ _
          (deposits group rest record state uploaded grown bytes holds deposited fills renews)) ?_
      intro result after within held
      cases result with
      | error fault =>
          refine ⟨within, fun other => ⟨group :: rest, ?_⟩⟩
          rw [held other]
          exact holds
      | ok result =>
          obtain ⟨step, grown⟩ := result
          obtain ⟨bytes, deposited, fills, renews, rfl⟩ := held
          have stood := deposits group rest record state step.uploaded grown bytes holds deposited
            fills renews
          refine Job.Ends.bind (ih (batch + 1) grown stood) ?_
          intro run last within ended
          refine ⟨within, ?_⟩
          cases stopped : run.fault with
          | none =>
              simp only [stopped] at ended ⊢
              refine ⟨?_, ended.2⟩
              rw [List.flatten_cons, List.length_append, ← deposited.length_eq, ← ended.1]
              rfl
          | some fault =>
              simp only [stopped] at ended ⊢
              exact ended

end Loop

theorem uploadHandle_meets
    (stands : List FilePair → List (List FilePair) → Record → Site.Diary → Prop)
    (inside : ∀ candidates groups record state, stands candidates groups record state → inv state)
    (tells : ∀ candidates groups record state, stands candidates groups record state →
      pipeline.cache.Tells state.cache handle.partition record)
    (plans : ∀ candidates groups,
      Source.ListedBy conditions.Lists pipeline.assetsDir pipeline.remapper handle.partition
        candidates →
      groups.flatten = handle.record.pendingPairs candidates →
        stands candidates groups handle.record state)
    (deposits : ∀ candidates group rest record state uploaded grown bytes,
      stands candidates (group :: rest) record state → conditions.Deposits group uploaded →
      record.Fills pipeline.remapper uploaded grown →
      pipeline.cache.Renews handle.partition grown state.cache (some bytes) →
        stands candidates rest grown (state.save bytes))
    (failing : ∀ fault, fails fault state)
    (stops : ∀ candidates groups record state fault, stands candidates groups record state →
      fails fault state)
    (unsaved : ∀ fault state, fault.IsCache → fails fault state)
    (holds : inv state) :
    Work.Meets conditions.Answers inv
      (fun result after => result.2.partition = handle.partition ∧ ∃ candidates left,
        Source.ListedBy conditions.Lists pipeline.assetsDir pipeline.remapper handle.partition
          candidates ∧
        stands candidates left result.2.record after ∧
        (result.1.interrupted = false → left = []))
      fails (pipeline.uploadHandle handle) state := by
  refine Work.Meets.bind _ (plan_meets holds failing) ?_
  rintro plan after within ⟨rfl, candidates, listed, grouped, -⟩
  have started := plans candidates plan.groups listed (flatten_of_groupsOf grouped)
  refine Work.Meets.bind _ (Work.Meets.lift (uploadGroups_meets (inside candidates)
    (tells candidates) (deposits candidates) 0 plan.groups handle.record started)) ?_
  intro run last within ended
  cases stopped : run.fault with
  | none =>
      simp only [stopped] at ended
      exact Work.Meets.pure within ⟨rfl, candidates, [], listed, ended.2, fun _ => rfl⟩
  | some fault =>
      simp only [stopped] at ended
      by_cases fatal : fault.isFatal = true
      · rw [Option.filter_some, if_pos fatal]
        refine Work.Meets.throw within ?_
        by_cases cache : fault.IsCache
        · exact unsaved fault last cache
        · obtain ⟨left, stood⟩ := ended cache
          exact stops candidates left run.record last fault stood
      · obtain ⟨left, stood⟩ := ended (PipelineFault.not_isCache (by simpa using fatal))
        rw [Option.filter_some, if_neg fatal]
        exact Work.Meets.pure within ⟨rfl, candidates, left, listed, stood, nofun⟩

end Pipeline

end Cadastre
