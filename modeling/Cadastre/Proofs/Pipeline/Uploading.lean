import Cadastre.Proofs.Pipeline.Recording

/-!
Rules for the parts of an upload. The rule of a group says what storing, recording and saving it
has to keep; that of the loop goes from one group to the next by an assertion on the groups that
are left; and that of the whole has the plan in front.
-/

namespace Cadastre

open Site (Kept)

structure PartitionHandle.ReadFrom (cache : ProgressCache) (contents : Option Bytes)
    (partition : Partition) (handle : PartitionHandle) : Prop where
  place : handle.partition = partition
  page : ∃ found, cache.load contents partition = .ok found ∧ handle.record = found.getD {}

namespace Pipeline

variable {terms : Site.Terms} {inv pre : Site.State → Prop}
  {fails : PipelineFault → Site.State → Prop} {state : Site.State} {pipeline : Pipeline}
  {partition : Partition} {handle : PartitionHandle}

theorem openPartition_safe (kept : Kept inv pre) (keptFails : ∀ fault, Kept inv (fails fault))
    (booked : ∀ state, pre state → ∃ book, pipeline.cache.Holds state.cache book)
    (failing : ∀ fault state, pre state → ¬ fault.IsTransition → fails fault state)
    (holds : pre state) :
    Work.Safe terms inv
      (fun handle state => pre state ∧ handle.ReadFrom pipeline.cache state.cache partition) fails
      (pipeline.openPartition partition) state := by
  rw [openPartition]
  split
  · refine Work.Safe.bind (fun _ _ => False) keptFails
      (Work.Safe.throw_of kept holds fun state held => failing _ state held ?_) fun _ _ => nofun
    rintro ⟨_, _, _, same⟩
    cases same
  · refine Work.Safe.bind _ keptFails (ProgressCache.readRecord_safe kept keptFails booked
      (fun reason state held _ => failing _ state held
        (PipelineFault.not_isTransition fun _ => nofun)) holds) ?_
    intro found after held
    refine Work.Safe.pure_of (kept.and ?_) held
      fun state held => ⟨held.1, rfl, found, held.2, rfl⟩
    rintro before _ loaded ⟨_, _, _, _, rfl⟩
    exact loaded

theorem plan_safe (handle : PartitionHandle) (kept : Kept inv pre)
    (keptFails : ∀ fault, Kept inv (fails fault))
    (failing : ∀ fault state, pre state → ¬ fault.IsTransition → fails fault state)
    (holds : pre state) :
    Work.Safe terms inv
      (fun plan state => pre state ∧ ∃ candidates,
        Source.Lists terms pipeline.assetsDir pipeline.remapper handle.partition candidates ∧
          plan.groups.flatten = handle.record.pendingPairs candidates ∧
          plan.pending = plan.groups.flatten.length) fails
      (pipeline.plan handle) state := by
  refine Work.Safe.bind _ keptFails (Source.candidates_safe kept keptFails failing holds) ?_
  rintro candidates after ⟨held, listed⟩
  refine Work.Safe.bind (fun groups state => pre state ∧
    pipeline.groupsOf (handle.record.pendingPairs candidates) = .ok groups) keptFails
    (Work.Safe.check (fun _ => kept.and (Site.stable_const _)) keptFails
      (fun groups grouped => ⟨held, grouped⟩)
      fun fault failed => failing _ _ held (not_isTransition_of_groupsOf failed)) ?_
  rintro groups last ⟨held, grouped⟩
  have whole := flatten_of_groupsOf grouped
  exact Work.Safe.pure_of kept held fun state held => ⟨held, candidates, listed, whole,
    by rw [whole]⟩

theorem uploadGroup_safe (given : Site.State → Prop) (post : Record → Site.State → Prop)
    {batch : Nat} {group : List FilePair} (kept : Kept inv pre) (keptGiven : Kept inv given)
    (keptPost : ∀ grown, Kept inv (post grown)) (keptFails : ∀ fault, Kept inv (fails fault))
    (booked : ∀ state, given state → ∃ book, pipeline.cache.Holds state.cache book)
    (stores : ∀ state, pre state →
      given { state with stored := state.stored ++ group.map FilePair.key })
    (refuses : ∀ uploaded fault state, List.Forall₂ (FilePair.StoredAs terms) group uploaded →
      recordPairs pipeline.remapper handle.record uploaded = .error fault → given state →
        fails (.core fault) state)
    (saves : ∀ uploaded grown state book bytes,
      List.Forall₂ (FilePair.StoredAs terms) group uploaded →
      recordPairs pipeline.remapper handle.record uploaded = .ok grown → given state →
      pipeline.cache.Holds state.cache book →
      pipeline.cache.Holds (some bytes) (Function.update book handle.partition grown) →
        post grown { state with cache := some bytes })
    (failing : ∀ fault state, pre state → ¬ fault.IsTransition → fails fault state)
    (breaks : ∀ reason state, given state ∨ (∃ grown, post grown state) → terms.CacheFails →
      fails (.cache (.io reason)) state)
    (holds : pre state) :
    Work.Safe terms inv
      (fun result state => result.1.uploaded.length = group.length ∧ post result.2 state) fails
      (pipeline.uploadGroup handle batch group) state := by
  refine Work.Safe.bind (fun uploaded state => given state ∧
    List.Forall₂ (FilePair.StoredAs terms) group uploaded) keptFails
    (storeGroup_safe kept (fun _ => keptGiven.and (Site.stable_const _)) keptFails
      (fun state uploaded held stored => ⟨stores state held, stored⟩) failing holds) ?_
  rintro uploaded after ⟨held, stored⟩
  refine Work.Safe.bind (fun grown state => given state ∧
    recordPairs pipeline.remapper handle.record uploaded = .ok grown) keptFails
    (Work.Safe.check (fun _ => keptGiven.and (Site.stable_const _)) keptFails
      (fun grown recorded => ⟨held, recorded⟩)
      fun fault failed => refuses uploaded fault after stored failed held) ?_
  rintro grown after ⟨held, recorded⟩
  refine Work.Safe.bind _ keptFails (ProgressCache.writeRecord_safe (post grown) keptGiven
    (keptPost grown) keptFails booked
    (fun state book bytes held => saves uploaded grown state book bytes stored recorded held)
    (fun reason state held => breaks reason state (held.imp_right fun done => ⟨grown, done⟩))
    held) ?_
  intro _ last done
  exact Work.Safe.pure_of (keptPost grown) done fun state done => ⟨stored.length_eq.symm, done⟩

def leaves (stands : List (List FilePair) → Record → Site.State → Prop)
    (stops : Record → PipelineFault → Site.State → Prop) (groups : List (List FilePair))
    (run : UploadRun) (state : Site.State) : Prop :=
  match run.fault with
  | none => run.uploaded = groups.flatten.length ∧ stands [] run.record state
  | some fault => stops run.record fault state

theorem uploadGroups_safe {stands : List (List FilePair) → Record → Site.State → Prop}
    {stops : Record → PipelineFault → Site.State → Prop}
    (keptStands : ∀ groups record, Kept inv (stands groups record))
    (keptStops : ∀ record fault, Kept inv (stops record fault))
    (each : ∀ batch group rest record state, stands (group :: rest) record state →
      Work.Safe terms inv
        (fun result state => result.1.uploaded.length = group.length ∧
          stands rest result.2 state) (stops record)
        (pipeline.uploadGroup ⟨partition, record⟩ batch group) state)
    (batch : Nat) (groups : List (List FilePair)) (record : Record)
    (holds : stands groups record state) :
    Job.Safe (Site.world terms) inv (leaves stands stops groups)
      (pipeline.uploadGroups ⟨partition, record⟩ batch groups) state := by
  induction groups generalizing batch record state with
  | nil =>
      refine Job.Safe.done (Site.world terms) ?_ ?_ ⟨rfl, holds⟩
      · exact fun before after held drift =>
          ⟨held.1, (keptStands [] record).stable before after held.2 drift⟩
      · exact fun state held => (keptStands [] record).inside state held.2
  | cons group rest ih =>
      rw [uploadGroups]
      refine Job.Safe.bind (each batch group rest record state holds) fun result after held => ?_
      cases result with
      | error fault =>
          exact Job.Safe.done (Site.world terms) (keptStops record fault).stable
            (keptStops record fault).inside held
      | ok result =>
          obtain ⟨step, grown⟩ := result
          obtain ⟨length, stood⟩ := held
          refine Job.Safe.map (Site.world terms)
            (fun run : UploadRun => { run with steps := step :: run.steps }) _
            (Job.Safe.weaken (ih (batch + 1) grown stood) fun run last ended => ?_)
          simp only [leaves] at ended ⊢
          cases stopped : run.fault with
          | none =>
              rw [stopped] at ended
              refine ⟨?_, ended.2⟩
              rw [List.flatten_cons, List.length_append, ← length, ← ended.1]
              rfl
          | some fault =>
              rw [stopped] at ended
              exact ended

/-- How an upload is left that ends well: all groups are done, or a fault that is not fatal
stopped it. -/
inductive Ends (terms : Site.Terms) (pipeline : Pipeline) (partition : Partition)
    (stands : List FilePair → List (List FilePair) → Record → Site.State → Prop)
    (stops : Record → PipelineFault → Site.State → Prop) :
    UploadSummary × PartitionHandle → Site.State → Prop where
  | whole {candidates : List FilePair} {count batches : Nat} {record : Record}
      {state : Site.State} :
      Source.Lists terms pipeline.assetsDir pipeline.remapper partition candidates →
      stands candidates [] record state →
        Ends terms pipeline partition stands stops
          (⟨count, count, batches, false⟩, ⟨partition, record⟩) state
  | cut {pending uploaded batches : Nat} {record : Record} {fault : PipelineFault}
      {state : Site.State} : fault.isFatal = false → stops record fault state →
        Ends terms pipeline partition stands stops
          (⟨pending, uploaded, batches, true⟩, ⟨partition, record⟩) state

theorem uploadHandle_safe
    (stands : List FilePair → List (List FilePair) → Record → Site.State → Prop)
    (stops : Record → PipelineFault → Site.State → Prop) (kept : Kept inv pre)
    (keptStands : ∀ candidates groups record, Kept inv (stands candidates groups record))
    (keptStops : ∀ record fault, Kept inv (stops record fault))
    (keptFails : ∀ fault, Kept inv (fails fault))
    (plans : ∀ candidates groups state, pre state →
      Source.Lists terms pipeline.assetsDir pipeline.remapper handle.partition candidates →
      groups.flatten = handle.record.pendingPairs candidates →
        stands candidates groups handle.record state)
    (each : ∀ candidates batch group rest record state,
      Source.Lists terms pipeline.assetsDir pipeline.remapper handle.partition candidates →
      stands candidates (group :: rest) record state →
      Work.Safe terms inv
        (fun result state => result.1.uploaded.length = group.length ∧
          stands candidates rest result.2 state) (stops record)
        (pipeline.uploadGroup ⟨handle.partition, record⟩ batch group) state)
    (dies : ∀ record fault state, fault.isFatal = true → stops record fault state →
      fails fault state)
    (failing : ∀ fault state, pre state → ¬ fault.IsTransition → fails fault state)
    (holds : pre state) :
    Work.Safe terms inv (Ends terms pipeline handle.partition stands stops) fails
      (pipeline.uploadHandle handle) state := by
  refine Work.Safe.bind _ keptFails (plan_safe handle kept keptFails failing holds) ?_
  rintro plan after ⟨held, candidates, listed, flat, count⟩
  have looped := uploadGroups_safe (keptStands candidates) keptStops
    (fun batch group rest record state => each candidates batch group rest record state listed)
    0 plan.groups handle.record (plans candidates plan.groups after held listed flat)
  refine Work.Safe.bind (leaves (stands candidates) stops plan.groups) keptFails
    (Work.Safe.lift looped) ?_
  intro run last ended
  unfold leaves at ended
  cases stopped : run.fault with
  | none =>
      simp only [stopped] at ended
      simp only [Option.filter_none, Option.isSome_none, count, ended.1]
      exact Work.Safe.pure_of (keptStands candidates [] run.record) ended.2
        fun state held => Ends.whole listed held
  | some fault =>
      simp only [stopped] at ended
      by_cases fatal : fault.isFatal = true
      · rw [Option.filter_some, if_pos fatal]
        exact Work.Safe.throw_of (keptStops run.record fault) ended
          fun state held => dies run.record fault state fatal held
      · rw [Option.filter_some, if_neg fatal]
        exact Work.Safe.pure_of (keptStops run.record fault) ended
          fun state held => Ends.cut (Bool.not_eq_true _ ▸ fatal) held

end Pipeline

end Cadastre
