import Cadastre.Proofs.Pipeline.Boundary
import Cadastre.Proofs.Pipeline.Stage

/-!
Uploads leave the cache file between two groups, wherever they are stopped. What is told in the end
is what the last answer comes to.
-/

namespace Cadastre

namespace Site

/-- A directory with this listing, and a provider that answers for the pairs it is given. -/
def Latitude.ofListing (entries : List DirectoryEntry) : Latitude where
  Lists := fun listed => listed = entries
  Delivers := fun prepared uploaded =>
    uploaded.map UploadedPair.key = prepared.map PreparedPair.key

end Site

namespace Pipeline

/-- What stops an upload at a group, when the handle and the cache file are such: what the provider
replied, what was heard last, and the fault that it is told as. -/
inductive Halts (pipeline : Pipeline) (group : List FilePair) (handle : PartitionHandle)
    (contents : Option Bytes) : Site.Loose → Site.Exchange → PipelineFault → Prop where
  | unfit {exchange : Site.Exchange} {fault : PipelineFault} :
      Source.Unfit group exchange fault → Halts pipeline group handle contents none exchange fault
  | refused {prepared : List PreparedPair} (fault : StorageFault) :
      prepared.map PreparedPair.key = group.map FilePair.key →
        Halts pipeline group handle contents (some (.error fault))
          ⟨.storePairs prepared, .error fault⟩ (.storage fault)
  | unrecorded {prepared : List PreparedPair} {uploaded : List UploadedPair} {fault : Fault} :
      prepared.map PreparedPair.key = group.map FilePair.key →
      uploaded.map UploadedPair.key = group.map FilePair.key →
      recordPairs pipeline.remapper handle.record uploaded = .error fault →
        Halts pipeline group handle contents (some (.ok uploaded))
          ⟨.storePairs prepared, .ok uploaded⟩ (.core fault)
  | unsaved {uploaded : List UploadedPair} {grown : Record} {exchange : Site.Exchange}
      {fault : PipelineFault} : uploaded.map UploadedPair.key = group.map FilePair.key →
      recordPairs pipeline.remapper handle.record uploaded = .ok grown →
      pipeline.cache.Unsaved handle.partition grown contents exchange fault →
        Halts pipeline group handle contents (some (.ok uploaded)) exchange fault

def stepsFrom (batch : Nat) (stored : List (List UploadedPair)) : List UploadStep :=
  (stored.zipIdx batch).map fun (uploaded, batch) => ⟨batch, uploaded⟩

@[simp] theorem length_stepsFrom (batch : Nat) (stored : List (List UploadedPair)) :
    (stepsFrom batch stored).length = stored.length := by
  rw [stepsFrom, List.length_map, List.length_zipIdx]

theorem uploaded_stepsFrom (batch : Nat) (stored : List (List UploadedPair)) (record : Record)
    (fault : Option PipelineFault) :
    UploadRun.uploaded ⟨stepsFrom batch stored, record, fault⟩ = stored.flatten.length := by
  induction stored generalizing batch with
  | nil => rfl
  | cons uploaded rest ih =>
      rw [List.flatten_cons, List.length_append, ← ih (batch + 1)]
      rfl

/-- How a run ends whose groups from number `batch` on were stored so: all of them were, or one was
stopped, or the last of them was saved although the save was reported to have failed. -/
inductive Concludes (pipeline : Pipeline) (partition : Partition) (groups : List (List FilePair))
    (start after : Site.Journal) (batch : Nat) (stored : List (List UploadedPair))
    (grown : Record) : Site.Loose → UploadRun → Prop where
  | whole : batch + stored.length = groups.length → start.Fluent after →
      Concludes pipeline partition groups start after batch stored grown none
        ⟨stepsFrom batch stored, grown, none⟩
  | halted {loose : Site.Loose} {group : List FilePair} {exchange : Site.Exchange}
      {fault : PipelineFault} : groups[batch + stored.length]? = some group →
      pipeline.Halts group ⟨partition, grown⟩ after.cache loose exchange fault →
      start.Stopped exchange after →
        Concludes pipeline partition groups start after batch stored grown loose
          ⟨stepsFrom batch stored, grown, some fault⟩
  | unsure {yielded : List (List UploadedPair)} {last : List UploadedPair} {record : Record}
      {contents : Bytes} {reason : String} : stored = yielded ++ [last] →
      recordPairs pipeline.remapper record last = .ok grown → after.cache = some contents →
      start.Stopped ⟨.replaceCache contents, .error reason⟩ after →
        Concludes pipeline partition groups start after batch stored grown none
          ⟨stepsFrom batch yielded, record, some (.cache (.io reason))⟩

theorem Concludes.cons {pipeline : Pipeline} {partition : Partition}
    {groups : List (List FilePair)} {start after : Site.Journal} {batch : Nat}
    {stored : List (List UploadedPair)} {grown : Record} {loose : Site.Loose} {run : UploadRun}
    (ends : pipeline.Concludes partition groups start after (batch + 1) stored grown loose run)
    (uploaded : List UploadedPair) :
    pipeline.Concludes partition groups start after batch (uploaded :: stored) grown loose
      { run with steps := ⟨batch, uploaded⟩ :: run.steps } := by
  have count : batch + (uploaded :: stored).length = batch + 1 + stored.length := by
    rw [List.length_cons]
    omega
  cases ends with
  | whole all fluent => exact .whole (count.trans all) fluent
  | halted next halts stopped => exact .halted (by rw [count]; exact next) halts stopped
  | @unsure yielded last _ _ _ same recorded held stopped =>
      have more : uploaded :: stored = (uploaded :: yielded) ++ [last] := by rw [same]; rfl
      exact .unsure more recorded held stopped

section

variable {entries : List DirectoryEntry} {pipeline : Pipeline} {handle : PartitionHandle}
  {groups : List (List FilePair)} {start : Site.Journal}

def AtBoundary (pipeline : Pipeline) (handle : PartitionHandle) (groups : List (List FilePair))
    (start state : Site.Journal) : Prop :=
  ∃ stored grown loose, Site.Boundary pipeline handle groups start stored grown loose state

theorem atBoundary_steady (pipeline : Pipeline) (handle : PartitionHandle)
    (groups : List (List FilePair)) (start : Site.Journal) :
    Site.Journal.Steady (pipeline.AtBoundary handle groups start) := by
  rintro state exchange unasked ⟨stored, grown, loose, stood⟩
  exact ⟨stored, grown, loose, stood.hear unasked⟩

theorem uploadGroup_whole {stored : List (List UploadedPair)} {grown : Record}
    {state : Site.Journal} {group : List FilePair}
    (next : groups[stored.length]? = some group)
    (stood : Site.Boundary pipeline handle groups start stored grown none state)
    (fluent : start.Fluent state) :
    Work.Meets (Site.Latitude.ofListing entries).Answers
      (pipeline.AtBoundary handle groups start)
      (fun result after => result.1.batch = stored.length ∧
        recordPairs pipeline.remapper grown result.1.uploaded = .ok result.2 ∧
        Site.Boundary pipeline handle groups start (stored ++ [result.1.uploaded]) result.2 none
          after ∧ start.Fluent after)
      (fun fault after => (∃ loose exchange,
          Site.Boundary pipeline handle groups start stored grown loose after ∧
          pipeline.Halts group ⟨handle.partition, grown⟩ after.cache loose exchange fault ∧
          start.Stopped exchange after) ∨
        ∃ uploaded entered contents reason, fault = .cache (.io reason) ∧
          recordPairs pipeline.remapper grown uploaded = .ok entered ∧
          Site.Boundary pipeline handle groups start (stored ++ [uploaded]) entered none after ∧
          after.cache = some contents ∧
          start.Stopped ⟨.replaceCache contents, .error reason⟩ after)
      (pipeline.uploadGroup ⟨handle.partition, grown⟩ stored.length group) state := by
  have keyed : ∀ {uploaded between},
      (Site.Latitude.ofListing entries).Stores group uploaded state between →
        uploaded.map UploadedPair.key = group.map FilePair.key := by
    rintro uploaded between ⟨_, _, gathers, delivered, _⟩
    exact delivered.trans gathers.keys
  have moved : ∀ {uploaded entered between bytes} reply,
      (Site.Latitude.ofListing entries).Stores group uploaded state between →
      recordPairs pipeline.remapper grown uploaded = .ok entered →
      pipeline.cache.save state.cache handle.partition entered = .ok bytes →
        Site.Boundary pipeline handle groups start (stored ++ [uploaded]) entered none
          ((between.hear ⟨.replaceCache bytes, reply⟩).save bytes) := by
    intro uploaded entered between bytes reply stores recorded saved
    rw [← stores.cache_eq] at saved
    exact ((stood.stores stores).hear rfl).save next (keyed stores) recorded saved
  refine (uploadGroup_runs (atBoundary_steady _ _ _ _) ⟨_, _, _, stood⟩ ?unfit ?replies ?refused
    ?unrecorded ?unsaved ?saves ?unsure).weaken ?stored fun _ _ _ => id
  case unfit =>
    intro between exchange fault quiet unfit
    have unasked : exchange.delivery? = none := by cases unfit <;> rfl
    exact Or.inl ⟨none, exchange, (stood.quiet quiet).hear unasked, .unfit unfit,
      (fluent.quiet quiet).stopped exchange⟩
  case replies =>
    intro between prepared reply gathers
    exact ⟨_, _, _, (stood.quiet gathers.quiet).deliver prepared reply⟩
  case refused =>
    intro between prepared fault gathers
    exact Or.inl ⟨_, _, (stood.quiet gathers.quiet).deliver prepared _,
      .refused fault gathers.keys, (fluent.quiet gathers.quiet).stopped _⟩
  case unrecorded =>
    intro between prepared uploaded fault gathers delivered refusal
    exact Or.inl ⟨_, _, (stood.quiet gathers.quiet).deliver prepared _,
      .unrecorded gathers.keys (delivered.trans gathers.keys) refusal,
      (fluent.quiet gathers.quiet).stopped _⟩
  case unsaved =>
    intro uploaded entered between exchange fault stores recorded cause
    have unasked : exchange.delivery? = none := by cases cause <;> rfl
    rw [← stores.cache_eq] at cause
    exact Or.inl ⟨_, exchange, (stood.stores stores).hear unasked,
      .unsaved (keyed stores) recorded cause, (fluent.stores stores).stopped exchange⟩
  case saves =>
    intro uploaded entered between bytes reply stores recorded saved
    exact ⟨_, _, _, moved reply stores recorded saved⟩
  case unsure =>
    intro uploaded entered between bytes reason stores recorded saved
    exact Or.inr ⟨uploaded, entered, bytes, reason, rfl, recorded, moved _ stores recorded saved,
      rfl, (fluent.stores stores).stopped _⟩
  case stored =>
    rintro ⟨⟨batch, uploaded⟩, entered⟩ after _ ⟨between, bytes, stores, rfl, recorded, saved, rfl⟩
    exact ⟨rfl, recorded, moved _ stores recorded saved, (fluent.stores stores).hear rfl⟩

theorem uploadGroups_whole (stored : List (List UploadedPair)) (grown : Record)
    (state : Site.Journal) (left : List (List FilePair)) (rest : left = groups.drop stored.length)
    (stood : Site.Boundary pipeline handle groups start stored grown none state)
    (fluent : start.Fluent state) :
    Job.Ends (Site.Latitude.ofListing entries).Answers
      (pipeline.AtBoundary handle groups start)
      (fun run after => ∃ more entered loose,
        Site.Boundary pipeline handle groups start (stored ++ more) entered loose after ∧
        pipeline.Concludes handle.partition groups start after stored.length more entered loose
          run)
      (pipeline.uploadGroups ⟨handle.partition, grown⟩ stored.length left) state := by
  induction left generalizing stored grown state with
  | nil =>
      have all := List.drop_eq_nil_iff.mp rest.symm
      refine ⟨⟨stored, grown, none, stood⟩, [], grown, none, ?_, ?_⟩
      · rw [List.append_nil]
        exact stood
      · exact .whole (Nat.le_antisymm stood.short all) fluent
  | cons group others ih =>
      have next : groups[stored.length]? = some group := by
        rw [← List.head?_drop, ← rest]
        rfl
      rw [uploadGroups]
      refine Job.Ends.bind (uploadGroup_whole next stood fluent) ?_
      intro result after inside held
      cases result with
      | error fault =>
          refine ⟨inside, ?_⟩
          rcases held with ⟨loose, exchange, kept, halts, stopped⟩ |
            ⟨uploaded, entered, contents, reason, rfl, recorded, moved, shown, stopped⟩
          · refine ⟨[], grown, loose, ?_, .halted next halts stopped⟩
            rw [List.append_nil]
            exact kept
          · exact ⟨[uploaded], entered, none, moved,
              .unsure (List.nil_append _).symm recorded shown stopped⟩
      | ok result =>
          obtain ⟨⟨batch, uploaded⟩, entered⟩ := result
          obtain ⟨numbered, _, moved, fluent⟩ := held
          dsimp only at numbered moved ⊢
          subst numbered
          have rest' : others = groups.drop (stored ++ [uploaded]).length := by
            rw [List.length_append, List.length_singleton, ← List.drop_drop, ← rest]
            rfl
          have later := ih (stored ++ [uploaded]) entered _ rest' moved fluent
          rw [List.length_append, List.length_singleton] at later
          refine Job.Ends.bind later ?_
          rintro run last inside ⟨more, final, loose, kept, ends⟩
          rw [List.append_assoc] at kept
          exact ⟨inside, uploaded :: more, final, loose, kept, ends.cons uploaded⟩

end

/-- What a run tells its caller when the groups that a provider stored so are on record. -/
inductive Settles (pipeline : Pipeline) (handle : PartitionHandle) (plan : UploadPlan)
    (start after : Site.Journal) (stored : List (List UploadedPair)) (grown : Record) :
    Site.Loose → Except PipelineFault (UploadSummary × PartitionHandle) → Prop where
  | whole : stored.length = plan.groups.length → start.Fluent after →
      Settles pipeline handle plan start after stored grown none
        (.ok (⟨plan.pending, plan.groups.flatten.length, plan.groups.length, false⟩,
          ⟨handle.partition, grown⟩))
  | interrupted {group : List FilePair} {prepared : List PreparedPair} {fault : StorageFault} :
      plan.groups[stored.length]? = some group →
      prepared.map PreparedPair.key = group.map FilePair.key → fault.isProviderFailure = true →
      start.Stopped ⟨.storePairs prepared, .error fault⟩ after →
        Settles pipeline handle plan start after stored grown (some (.error fault))
          (.ok (⟨plan.pending, (plan.groups.take stored.length).flatten.length, stored.length,
            true⟩, ⟨handle.partition, grown⟩))
  | halted {loose : Site.Loose} {group : List FilePair} {exchange : Site.Exchange}
      {fault : PipelineFault} : plan.groups[stored.length]? = some group →
      pipeline.Halts group ⟨handle.partition, grown⟩ after.cache loose exchange fault →
      fault.isFatal = true → start.Stopped exchange after →
        Settles pipeline handle plan start after stored grown loose (.error fault)
  | unsure {contents : Bytes} {reason : String} : stored ≠ [] → after.cache = some contents →
      start.Stopped ⟨.replaceCache contents, .error reason⟩ after →
        Settles pipeline handle plan start after stored grown none (.error (.cache (.io reason)))
  | unlisted {reason : String} : stored = [] →
      after = start.hear ⟨.listAssets, .error reason⟩ →
        Settles pipeline handle plan start after stored grown none
          (.error (.source pipeline.assetsDir reason))

/-- Why there is no plan, or none is known, with the journal in the end: the directory could not be
listed, or its listing has no plan. -/
inductive Unplanned (pipeline : Pipeline) (entries : List DirectoryEntry) (fault : Fault)
    (start : Site.Journal) : PipelineFault → Site.Journal → Prop where
  | unlisted (reason : String) :
      Unplanned pipeline entries fault start (.source pipeline.assetsDir reason)
        (start.hear ⟨.listAssets, .error reason⟩)
  | misfit :
      Unplanned pipeline entries fault start (.core fault)
        (start.hear ⟨.listAssets, .ok entries⟩)

section

variable {entries : List DirectoryEntry} {pipeline : Pipeline} {handle : PartitionHandle}
  {plan : UploadPlan} {start : Site.Journal}

theorem settles_of_concludes {stored : List (List UploadedPair)} {grown : Record}
    {loose : Site.Loose} {after : Site.Journal} {run : UploadRun}
    (stood : Site.Boundary pipeline handle plan.groups start stored grown loose after)
    (ends : pipeline.Concludes handle.partition plan.groups start after 0 stored grown loose run) :
    pipeline.Settles handle plan start after stored grown loose
      (match run.fault.filter PipelineFault.isFatal with
        | some fault => .error fault
        | none => .ok (⟨plan.pending, run.uploaded, run.steps.length, run.fault.isSome⟩,
          ⟨handle.partition, run.record⟩)) := by
  cases ends with
  | whole all fluent =>
      rw [Nat.zero_add] at all
      have items := stood.length_flatten
      rw [all, List.take_length] at items
      dsimp only [Option.filter_none]
      rw [uploaded_stepsFrom, length_stepsFrom, items, all]
      exact .whole all fluent
  | @halted loose group exchange fault next halts stopped =>
      rw [Nat.zero_add] at next
      cases fatal : fault.isFatal with
      | true =>
          simp only [Option.filter_some, fatal, if_true]
          exact .halted next halts fatal stopped
      | false =>
          cases halts with
          | unfit unfit => cases unfit <;> cases fatal
          | refused fault keys =>
              have failure : fault.isProviderFailure = true := by
                simpa [PipelineFault.isFatal] using fatal
              simp only [Option.filter_some, fatal, uploaded_stepsFrom, length_stepsFrom,
                stood.length_flatten]
              exact .interrupted next keys failure stopped
          | unrecorded => cases fatal
          | unsaved keys recorded unsaved => cases unsaved <;> cases fatal
  | unsure same recorded held stopped => exact .unsure (by rw [same]; simp) held stopped

theorem plan_of_planned {groups : List (List FilePair)}
    (known : pipeline.planned handle entries = .ok plan) :
    Work.Meets (Site.Latitude.ofListing entries).Answers
      (pipeline.AtBoundary handle groups start)
      (fun found after => found = plan ∧ after = start.hear ⟨.listAssets, .ok entries⟩)
      (fun fault after => ∃ reason, fault = .source pipeline.assetsDir reason ∧
        after = start.hear ⟨.listAssets, .error reason⟩)
      (pipeline.plan handle) start := by
  have begun := Site.Boundary.initial pipeline handle groups start
  refine (plan_runs (atBoundary_steady _ _ _ _) ⟨_, _, _, begun⟩
    (fun reason => ⟨reason, rfl, rfl⟩) ?_).weaken ?_ fun _ _ _ => id
  · rintro _ fault rfl misfit
    rw [known] at misfit
    cases misfit
  · rintro found after _ ⟨_, rfl, same, rfl⟩
    rw [known] at same
    cases same
    exact ⟨rfl, rfl⟩

theorem uploadHandle_whole (known : pipeline.planned handle entries = .ok plan) :
    Job.Ends (Site.Latitude.ofListing entries).Answers
      (pipeline.AtBoundary handle plan.groups start)
      (fun outcome after => ∃ stored grown loose,
        Site.Boundary pipeline handle plan.groups start stored grown loose after ∧
        pipeline.Settles handle plan start after stored grown loose outcome)
      (pipeline.uploadHandle handle).run start := by
  have begun := Site.Boundary.initial pipeline handle plan.groups start
  let fails : PipelineFault → Site.Journal → Prop := fun fault after => ∃ stored grown loose,
    Site.Boundary pipeline handle plan.groups start stored grown loose after ∧
      pipeline.Settles handle plan start after stored grown loose (.error fault)
  let post : UploadSummary × PartitionHandle → Site.Journal → Prop := fun value after =>
    ∃ stored grown loose,
      Site.Boundary pipeline handle plan.groups start stored grown loose after ∧
        pipeline.Settles handle plan start after stored grown loose (.ok value)
  have meets : Work.Meets (Site.Latitude.ofListing entries).Answers
      (pipeline.AtBoundary handle plan.groups start) post fails (pipeline.uploadHandle handle)
      start := by
    refine Work.Meets.bind _ ((plan_of_planned known).weaken (fun _ _ _ => id) ?_) ?_
    · rintro fault after _ ⟨reason, rfl, rfl⟩
      exact ⟨[], handle.record, none, begun.hear rfl, .unlisted rfl rfl⟩
    rintro found after _ ⟨rfl, rfl⟩
    refine Work.Meets.bind _ (Work.Meets.lift (uploadGroups_whole [] handle.record _ found.groups
      rfl (begun.hear rfl) ((Site.Journal.Fluent.refl start).hear rfl))) ?_
    rintro run last inside ⟨stored, grown, loose, stood, ends⟩
    rw [List.nil_append] at stood
    have settled := settles_of_concludes stood ends
    dsimp only
    split
    · rename_i fault chosen
      rw [chosen] at settled
      exact Work.Meets.throw inside ⟨stored, grown, loose, stood, settled⟩
    · rename_i chosen
      rw [chosen] at settled
      exact Work.Meets.pure inside ⟨stored, grown, loose, stood, settled⟩
  refine Job.Ends.weaken meets ?_
  intro outcome after _ held
  cases outcome with
  | ok value => exact held
  | error fault => exact held

theorem uploadSteps_whole (known : pipeline.planned handle entries = .ok plan) (count : Nat) :
    Job.Ends (Site.Latitude.ofListing entries).Answers
      (pipeline.AtBoundary handle (plan.groups.take count) start)
      (fun run after => ∃ stored grown loose,
        Site.Boundary pipeline handle (plan.groups.take count) start stored grown loose after ∧
        (pipeline.Concludes handle.partition (plan.groups.take count) start after 0 stored grown
            loose run ∨
          stored = [] ∧ ∃ reason, after = start.hear ⟨.listAssets, .error reason⟩ ∧
            run = ⟨[], handle.record, some (.source pipeline.assetsDir reason)⟩))
      (pipeline.uploadSteps handle count) start := by
  have begun := Site.Boundary.initial pipeline handle (plan.groups.take count) start
  have fluent := Site.Journal.Fluent.refl start
  unfold uploadSteps
  split
  · rename_i none
    subst none
    refine ⟨⟨_, _, _, begun⟩, [], handle.record, .none, begun, Or.inl (.whole ?_ fluent)⟩
    rw [List.take_zero]
    rfl
  · refine Job.Ends.bind (plan_of_planned known) ?_
    intro outcome after inside held
    cases outcome with
    | error fault =>
        obtain ⟨reason, rfl, rfl⟩ := held
        exact ⟨inside, [], handle.record, none, begun.hear rfl, Or.inr ⟨rfl, reason, rfl, rfl⟩⟩
    | ok found =>
        obtain ⟨rfl, rfl⟩ := held
        refine (uploadGroups_whole [] handle.record _ _ rfl (begun.hear rfl)
          (fluent.hear rfl)).weaken ?_
        rintro run last _ ⟨stored, grown, loose, stood, ends⟩
        exact ⟨stored, grown, loose, stood, Or.inl ends⟩

theorem plan_of_unplanned {fault : Fault}
    (unplanned : pipeline.planned handle entries = .error fault) :
    Work.Meets (Site.Latitude.ofListing entries).Answers start.Untouched (fun _ _ => False)
      (pipeline.Unplanned entries fault start) (pipeline.plan handle) start := by
  have misfit : ∀ listed other, (Site.Latitude.ofListing entries).Lists listed →
      pipeline.planned handle listed = .error other →
        pipeline.Unplanned entries fault start (.core other)
          (start.hear ⟨.listAssets, .ok listed⟩) := by
    rintro _ other rfl found
    rw [unplanned] at found
    cases found
    exact .misfit
  refine (plan_runs (Site.Journal.Untouched.steady start) ⟨rfl, rfl⟩ .unlisted misfit).weaken ?_
    fun _ _ _ => id
  rintro found after _ ⟨_, rfl, same, _⟩
  rw [unplanned] at same
  cases same

/-- Groups reach the cache file in whole. Without a plan nothing is asked of the provider and
nothing is written; with one every point of an upload, of all groups or step by step, is between two
of the groups, and what is reported in the end is about the groups on record. A fault is what the
last answer comes to, and no failure is passed over before it. -/
theorem uploads_in_whole_groups (pipeline : Pipeline) (handle : PartitionHandle)
    (entries : List DirectoryEntry) (start : Site.Journal) :
    match pipeline.planned handle entries with
    | .error fault =>
      Job.Ends (Site.Latitude.ofListing entries).Answers start.Untouched
        (fun outcome after => ∃ found, outcome = .error found ∧
          pipeline.Unplanned entries fault start found after)
        (pipeline.uploadHandle handle).run start ∧
      ∀ count, Job.Ends (Site.Latitude.ofListing entries).Answers start.Untouched
        (fun run after => run.steps = [] ∧ run.record = handle.record ∧
          if count = 0 then run.fault = none ∧ after = start
          else ∃ found, run.fault = some found ∧
            pipeline.Unplanned entries fault start found after)
        (pipeline.uploadSteps handle count) start
    | .ok plan =>
      Job.Ends (Site.Latitude.ofListing entries).Answers
        (pipeline.AtBoundary handle plan.groups start)
        (fun outcome after => ∃ stored grown loose,
          Site.Boundary pipeline handle plan.groups start stored grown loose after ∧
          pipeline.Settles handle plan start after stored grown loose outcome)
        (pipeline.uploadHandle handle).run start ∧
      ∀ count, Job.Ends (Site.Latitude.ofListing entries).Answers
        (pipeline.AtBoundary handle (plan.groups.take count) start)
        (fun run after => ∃ stored grown loose,
          Site.Boundary pipeline handle (plan.groups.take count) start stored grown loose after ∧
          (pipeline.Concludes handle.partition (plan.groups.take count) start after 0 stored grown
              loose run ∨
            stored = [] ∧ ∃ reason, after = start.hear ⟨.listAssets, .error reason⟩ ∧
              run = ⟨[], handle.record, some (.source pipeline.assetsDir reason)⟩))
        (pipeline.uploadSteps handle count) start := by
  cases known : pipeline.planned handle entries with
  | ok plan => exact ⟨uploadHandle_whole known, uploadSteps_whole known⟩
  | error fault =>
      refine ⟨?_, fun count => ?_⟩
      · refine Job.Ends.bind (plan_of_unplanned known) ?_
        intro outcome after inside held
        cases outcome with
        | ok found => exact held.elim
        | error found => exact ⟨inside, found, rfl, held⟩
      · unfold uploadSteps
        split
        · exact ⟨⟨rfl, rfl⟩, rfl, rfl, rfl, rfl⟩
        · refine Job.Ends.bind (plan_of_unplanned known) ?_
          intro outcome after inside held
          cases outcome with
          | ok found => exact held.elim
          | error found => exact ⟨inside, rfl, rfl, found, rfl, held⟩

end

def uploadedOn (pipeline : Pipeline) (stage : Site.Stage) :
    Except PipelineFault (UploadSummary × PartitionHandle) × Site.Journal :=
  (pipeline.uploadHandle ⟨⟨0, 0⟩, {}⟩).run.follow (S := Site) stage.jot {}

/-- Whether that upload ends with so many groups of the plan on record, and tells what this comes
to. -/
def EndsAfter (pipeline : Pipeline) (stage : Site.Stage) (plan : UploadPlan) (count : Nat) : Prop :=
  ∃ stored grown loose,
    Site.Boundary pipeline ⟨⟨0, 0⟩, {}⟩ plan.groups {} stored grown loose
      (pipeline.uploadedOn stage).2 ∧
    pipeline.Settles ⟨⟨0, 0⟩, {}⟩ plan {} (pipeline.uploadedOn stage).2 stored grown loose
      (pipeline.uploadedOn stage).1 ∧
    stored.length = count

section

variable {pipeline : Pipeline} {stage : Site.Stage}

theorem uploadedOn_of_ends {inv : Site.Journal → Prop}
    {post : Except PipelineFault (UploadSummary × PartitionHandle) → Site.Journal → Prop}
    (ends : Job.Ends (Site.Latitude.ofListing stage.entries).Answers inv post
      (pipeline.uploadHandle ⟨⟨0, 0⟩, {}⟩).run {}) :
    inv (pipeline.uploadedOn stage).2 ∧
      post (pipeline.uploadedOn stage).1 (pipeline.uploadedOn stage).2 := by
  refine ends.followed fun request journal _ => stage.answers_jot rfl ?_ request journal
  intro pairs uploaded stored
  unfold Site.Stage.storePairs at stored
  split at stored
  · cases stored
  · cases stored
    exact List.map_map.trans (List.map_congr_left fun _ _ => rfl)

theorem endsAfter_of_ends {plan : UploadPlan}
    (ends : Job.Ends (Site.Latitude.ofListing stage.entries).Answers
      (pipeline.AtBoundary ⟨⟨0, 0⟩, {}⟩ plan.groups {})
      (fun outcome after => ∃ stored grown loose,
        Site.Boundary pipeline ⟨⟨0, 0⟩, {}⟩ plan.groups {} stored grown loose after ∧
        pipeline.Settles ⟨⟨0, 0⟩, {}⟩ plan {} after stored grown loose outcome)
      (pipeline.uploadHandle ⟨⟨0, 0⟩, {}⟩).run {}) :
    pipeline.EndsAfter stage plan (pipeline.uploadedOn stage).2.past.length := by
  obtain ⟨_, stored, grown, loose, stood, settles⟩ := uploadedOn_of_ends ends
  refine ⟨stored, grown, loose, stood, settles, ?_⟩
  rw [stood.saves]
  exact (Nat.zero_add _).symm

end

def twoGroups : UploadPlan :=
  ⟨2, [[⟨0, "assets/0.png", "assets/0.json", 49⟩], [⟨1, "assets/1.png", "assets/1.json", 49⟩]]⟩

def refusing : Site.Stage := { Site.Stage.sample with refused := [1] }

def lacking : Site.Stage :=
  { Site.Stage.sample with
    files := Site.Stage.sample.files.filter fun file => file.1 ≠ "assets/1.png" }

def crowded : Site.Stage :=
  { Site.Stage.sample with
    entries := [⟨"0.png", 4⟩, ⟨"0.json", 45⟩, ⟨"1.png", 400⟩, ⟨"1.json", 45⟩] }

def bundling : Pipeline := { Site.Stage.pipeline with bundled := true, batchSizeLimit := 100 }

/-- Uploads of two items that end early: the second group is refused by the provider, or its image
is missing, or one pair is too large while the other one would fit. -/
theorem uploads_cut_short :
    ((Site.Stage.pipeline.uploadedOn refusing).1.map Prod.fst = .ok ⟨2, 1, 1, true⟩ ∧
      Site.Stage.pipeline.EndsAfter refusing twoGroups 1) ∧
    ((Site.Stage.pipeline.uploadedOn lacking).1.map Prod.fst
        = .error (.source "assets/1.png" "missing") ∧
      Site.Stage.pipeline.EndsAfter lacking twoGroups 1) ∧
    (bundling.uploadedOn crowded).1.map Prod.fst
        = .error (.core (.payloadTooLarge 1 445 100)) ∧
      Site.Journal.Untouched {} (bundling.uploadedOn crowded).2 := by
  have known : Site.Stage.pipeline.planned ⟨⟨0, 0⟩, {}⟩ Site.Stage.sample.entries
      = .ok twoGroups := by
    decide +kernel
  have whole := uploads_in_whole_groups Site.Stage.pipeline ⟨⟨0, 0⟩, {}⟩ Site.Stage.sample.entries
    {}
  rw [known] at whole
  have refused : (Site.Stage.pipeline.uploadedOn refusing).2.past.length = 1 := by decide +kernel
  have missed : (Site.Stage.pipeline.uploadedOn lacking).2.past.length = 1 := by decide +kernel
  have unplanned : bundling.planned ⟨⟨0, 0⟩, {}⟩ crowded.entries
      = .error (.payloadTooLarge 1 445 100) := by
    decide +kernel
  have untouched := uploads_in_whole_groups bundling ⟨⟨0, 0⟩, {}⟩ crowded.entries {}
  rw [unplanned] at untouched
  refine ⟨⟨by decide +kernel, ?_⟩, ⟨by decide +kernel, ?_⟩, by decide +kernel,
    (uploadedOn_of_ends untouched.1).1⟩
  · rw [← refused]
    exact endsAfter_of_ends whole.1
  · rw [← missed]
    exact endsAfter_of_ends whole.1

end Pipeline

end Cadastre
