import Cadastre.Proofs.Pipeline.Stage
import Cadastre.Proofs.Pipeline.Upholding
import Mathlib.Data.List.Induction
import Mathlib.Logic.Relation

/-!
One registry for each partition. As long as every save succeeds, the commands on a partition create
at most one registry. Its identifiers are in the cache before anything is written to it, and all
that is written is written to it.
-/

namespace Cadastre

namespace Site

open ProgressCache

def Event.saved? : Event → Option Bytes
  | saved contents => some contents
  | opened _ | begun _ => none

def Event.opened? : Event → Option RegistryHandle
  | opened handle => some handle
  | saved _ | begun _ => none

/-- What the cache file holds after these events, if there was none before. -/
def fileAfter (events : List Event) : Option Bytes := (events.filterMap Event.saved?).getLast?

def openings (events : List Event) : List RegistryHandle := events.filterMap Event.opened?

@[simp] theorem fileAfter_saved (events : List Event) (contents : Bytes) :
    fileAfter (events ++ [.saved contents]) = some contents := by
  simp [fileAfter, Event.saved?]

@[simp] theorem fileAfter_opened (events : List Event) (handle : RegistryHandle) :
    fileAfter (events ++ [.opened handle]) = fileAfter events := by
  simp [fileAfter, Event.saved?]

@[simp] theorem fileAfter_begun (events : List Event) (append : AppendCall) :
    fileAfter (events ++ [.begun append]) = fileAfter events := by
  simp [fileAfter, Event.saved?]

@[simp] theorem openings_saved (events : List Event) (contents : Bytes) :
    openings (events ++ [.saved contents]) = openings events := by
  simp [openings, Event.opened?]

@[simp] theorem openings_opened (events : List Event) (handle : RegistryHandle) :
    openings (events ++ [.opened handle]) = openings events ++ [handle] := by
  simp [openings, Event.opened?]

@[simp] theorem openings_begun (events : List Event) (append : AppendCall) :
    openings (events ++ [.begun append]) = openings events := by
  simp [openings, Event.opened?]

/-- What is told of a partition's registry, at every point of what happened. -/
structure OneRegistry (cache : ProgressCache) (partition : Partition) (events : List Event) :
    Prop where
  once : (openings events).length ≤ 1
  needed : ∀ earlier handle, earlier ++ [.opened handle] <+: events →
    ∃ record, cache.Tells (fileAfter earlier) partition record ∧ record.items.isEmpty = false
  named : ∀ earlier append, earlier ++ [.begun append] <+: events →
    openings earlier = [append.handle] ∧
      ∃ record, cache.Tells (fileAfter earlier) partition record ∧
        record.registryHandle? = some append.handle
  lasting : ∀ earlier later record program, earlier <+: later → later <+: events →
    cache.Tells (fileAfter earlier) partition record → record.program = some program →
      ∃ last, cache.Tells (fileAfter later) partition last ∧ last.program = some program
  unchained : ∀ earlier, earlier <+: events →
    ∃ record, cache.Tells (fileAfter earlier) partition record ∧ (record.program = none →
      ∀ key item, record.get? key = some item → item.state ≠ .onChain)

end Site

def Record.Unchained (record : Record) : Prop :=
  record.program = none → ∀ key item, record.get? key = some item → item.onChain = false

theorem Record.Unchained.fills {remapper : Remapper} {uploaded : List UploadedPair}
    {record grown : Record} (unchained : record.Unchained)
    (fills : record.Fills remapper uploaded grown) : grown.Unchained := by
  intro unnamed key item held
  have before := unchained (fills.program.symm.trans unnamed)
  rcases fills.cases held with ⟨_, flag⟩ | earlier
  · rw [flag]
    cases found : record.get? key with
    | none => rfl
    | some old => exact before key old found
  · exact before key item earlier

namespace Site

open ProgressCache

variable {cache : ProgressCache} {partition : Partition} {events : List Event}

def Lawful (cache : ProgressCache) (partition : Partition) (earlier : List Event) : Event → Prop
  | .saved contents => ∃ before after, cache.Tells (fileAfter earlier) partition before ∧
    cache.Tells (some contents) partition after ∧
    (∀ program, before.program = some program → after.program = some program) ∧ after.Unchained
  | .opened _ => openings earlier = [] ∧
    ∃ record, cache.Tells (fileAfter earlier) partition record ∧ record.items.isEmpty = false
  | .begun append => openings earlier = [append.handle] ∧
    ∃ record, cache.Tells (fileAfter earlier) partition record ∧
      record.registryHandle? = some append.handle

def Orderly (cache : ProgressCache) (partition : Partition) (events : List Event) : Prop :=
  ∀ earlier event, earlier ++ [event] <+: events → Lawful cache partition earlier event

theorem orderly_nil : Orderly cache partition [] := by
  intro earlier event first
  simp at first

theorem Orderly.concat {event : Event} (orderly : Orderly cache partition events)
    (lawful : Lawful cache partition events event) :
    Orderly cache partition (events ++ [event]) := by
  intro earlier next first
  rcases List.prefix_concat_iff.mp first with same | before
  · obtain ⟨rfl, rfl⟩ := List.append_singleton_inj.mp same
    exact lawful
  · exact orderly earlier next before

theorem Orderly.of_prefix {earlier : List Event} (orderly : Orderly cache partition events)
    (first : earlier <+: events) : Orderly cache partition earlier :=
  fun before event within => orderly before event (within.trans first)

theorem Orderly.once (orderly : Orderly cache partition events) :
    (openings events).length ≤ 1 := by
  induction events using List.reverseRecOn with
  | nil => simp [openings]
  | append_singleton earlier event ih =>
      have lawful := orderly earlier event (List.prefix_refl _)
      have before := ih (orderly.of_prefix (List.prefix_append _ _))
      cases event with
      | saved contents => simpa using before
      | opened handle => simp [lawful.1]
      | begun append => simpa using before

theorem Orderly.lasting {earlier : List Event} {record : Record} {program : Program}
    (orderly : Orderly cache partition events) (first : earlier <+: events)
    (tells : cache.Tells (fileAfter earlier) partition record)
    (named : record.program = some program) :
    ∃ last, cache.Tells (fileAfter events) partition last ∧ last.program = some program := by
  induction events using List.reverseRecOn with
  | nil =>
      rw [List.prefix_nil.mp first] at tells
      exact ⟨record, tells, named⟩
  | append_singleton between event ih =>
      rcases List.prefix_concat_iff.mp first with rfl | before
      · exact ⟨record, tells, named⟩
      · obtain ⟨last, there, kept⟩ := ih (orderly.of_prefix (List.prefix_append _ _)) before
        have lawful := orderly between event (List.prefix_refl _)
        cases event with
        | saved contents =>
            obtain ⟨held, after, tells, renewed, keeps, _⟩ := lawful
            rw [Tells.unique there tells] at kept
            exact ⟨after, by simpa using renewed, keeps program kept⟩
        | opened handle => exact ⟨last, by simpa using there, kept⟩
        | begun append => exact ⟨last, by simpa using there, kept⟩

theorem Orderly.unchained (orderly : Orderly cache partition events) :
    ∃ record, cache.Tells (fileAfter events) partition record ∧ record.Unchained := by
  induction events using List.reverseRecOn with
  | nil => exact ⟨{}, tells_none cache partition, fun _ key item held => by simp at held⟩
  | append_singleton between event ih =>
      have lawful := orderly between event (List.prefix_refl _)
      obtain ⟨record, tells, unchained⟩ := ih (orderly.of_prefix (List.prefix_append _ _))
      cases event with
      | saved contents =>
          obtain ⟨_, after, _, renewed, _, unchained⟩ := lawful
          exact ⟨after, by simpa using renewed, unchained⟩
      | opened handle => exact ⟨record, by simpa using tells, unchained⟩
      | begun append => exact ⟨record, by simpa using tells, unchained⟩

theorem Orderly.oneRegistry (orderly : Orderly cache partition events) :
    OneRegistry cache partition events where
  once := orderly.once
  needed earlier handle first := (orderly earlier (.opened handle) first).2
  named earlier append first := orderly earlier (.begun append) first
  lasting earlier later record program first within tells named :=
    (orderly.of_prefix within).lasting first tells named
  unchained earlier first := by
    obtain ⟨record, tells, unchained⟩ := (orderly.of_prefix first).unchained
    refine ⟨record, tells, fun unnamed key item held chained => ?_⟩
    have flag := ((item.state_eq_onChain_iff).mp chained).2
    rw [unchained unnamed key item held] at flag
    cases flag

/-- What holds of the partition's record and of what happened, whether or not the record has the
identifiers of the registry that was created last. -/
structure Founded (cache : ProgressCache) (partition : Partition) (record : Record)
    (diary : Diary) : Prop where
  file : diary.cache = fileAfter diary.events
  orderly : Orderly cache partition diary.events
  tells : cache.Tells diary.cache partition record
  linked : record.Linked
  unchained : record.Unchained

variable {record grown : Record} {diary : Diary}

theorem founded_empty : Founded cache partition {} {} :=
  ⟨rfl, orderly_nil, tells_none cache partition, Record.linked_empty,
    fun _ key item held => by simp at held⟩

theorem Founded.withLedger (founded : Founded cache partition record diary)
    (ledger : Option Bytes) : Founded cache partition record (diary.withLedger ledger) :=
  ⟨founded.file, founded.orderly, founded.tells, founded.linked, founded.unchained⟩

theorem Founded.save {bytes : Bytes} (founded : Founded cache partition record diary)
    (keeps : ∀ program, record.program = some program → grown.program = some program)
    (linked : grown.Linked) (unchained : grown.Unchained)
    (renews : cache.Renews partition grown diary.cache (some bytes)) :
    Founded cache partition grown (diary.save bytes) := by
  refine ⟨?_, founded.orderly.concat ?_, renews.tells, linked, unchained⟩
  · exact (fileAfter_saved _ _).symm
  · exact ⟨record, grown, founded.file ▸ founded.tells, renews.tells, keeps, unchained⟩

theorem Founded.open {handle : RegistryHandle} (founded : Founded cache partition record diary)
    (none : openings diary.events = []) (filled : record.items.isEmpty = false) :
    Founded cache partition record (diary.note (.opened handle)) := by
  refine ⟨?_, founded.orderly.concat ?_, founded.tells, founded.linked, founded.unchained⟩
  · exact founded.file.trans (fileAfter_opened _ _).symm
  · exact ⟨none, record, founded.file ▸ founded.tells, filled⟩

theorem Founded.begin {append : AppendCall} (founded : Founded cache partition record diary)
    (one : openings diary.events = [append.handle])
    (named : record.registryHandle? = some append.handle) :
    Founded cache partition record (diary.note (.begun append)) := by
  refine ⟨?_, founded.orderly.concat ?_, founded.tells, founded.linked, founded.unchained⟩
  · exact founded.file.trans (fileAfter_begun _ _).symm
  · exact ⟨one, record, founded.file ▸ founded.tells, named⟩

structure Settled (cache : ProgressCache) (partition : Partition) (record : Record)
    (diary : Diary) : Prop where
  founded : Founded cache partition record diary
  openings : openings diary.events = record.registryHandle?.toList

structure Awaited (cache : ProgressCache) (partition : Partition) (handle : RegistryHandle)
    (record : Record) (diary : Diary) : Prop where
  founded : Founded cache partition record diary
  openings : openings diary.events = [handle]
  unnamed : record.program = none

/-- A call may fail in any way, but must not lose a save. -/
def Recoverable (cache : ProgressCache) (partition : Partition) (fault : PipelineFault)
    (diary : Diary) : Prop :=
  fault.IsCache ∨ ∃ record, Settled cache partition record diary

theorem upholds_settled : Upholds cache partition (fun _ => True) (Recoverable cache partition)
    (Settled cache partition) (Awaited cache partition) where
  inside _ := trivial
  tells settled := settled.founded.tells
  linked settled := settled.founded.linked
  stops settled _ := Or.inr ⟨_, settled⟩
  unsaved _ lost := Or.inl lost
  turns settled ledger := ⟨settled.founded.withLedger ledger, settled.openings⟩
  fills := by
    intro remapper uploaded record grown state bytes settled fills renews
    have program := fills.program
    refine ⟨settled.founded.save (fun _ => program.trans) (settled.founded.linked.fills fills)
      (settled.founded.unchained.fills fills) renews, ?_⟩
    rw [Record.registryHandle?, program]
    exact (openings_saved _ _).trans settled.openings
  opens := by
    intro record state settled unnamed filled handle ledger
    have none : openings state.events = [] := by
      rw [settled.openings, Record.registryHandle?, unnamed]
      rfl
    refine ⟨(settled.founded.withLedger ledger).open none filled, ?_, unnamed⟩
    refine (openings_opened _ _).trans ?_
    rw [Diary.withLedger, none]
    rfl
  waits awaited := ⟨trivial, awaited.founded.tells⟩
  names := by
    intro handle record state bytes awaited renews
    refine ⟨awaited.founded.save ?_ awaited.founded.linked ?_ renews, ?_⟩
    · intro program named
      rw [awaited.unnamed] at named
      cases named
    · intro unnamed
      cases unnamed
    · exact (openings_saved _ _).trans awaited.openings
  begins := by
    intro record state append settled named ledger
    have one : openings state.events = [append.handle] := by
      rw [settled.openings, named]
      rfl
    refine ⟨(settled.founded.withLedger ledger).begin one named, ?_⟩
    exact (openings_begun _ _).trans settled.openings
  marks := by
    intro keys record marked state bytes settled named marks renews
    refine ⟨settled.founded.save (fun _ => marks.program.trans)
      (settled.founded.linked.marks marks) ?_ renews, ?_⟩
    · intro unnamed
      rw [marks.program] at unnamed
      exact absurd unnamed named
    · rw [Record.registryHandle?, marks.program]
      exact (openings_saved _ _).trans settled.openings

/-- A call of a command on the partition, in which every save succeeds: a fault of the cache can
only be one of opening, when nothing was done. -/
def Called (cache : ProgressCache) (partition : Partition) (before after : Diary) : Prop :=
  ∃ (pipeline : Pipeline) (task : Pipeline.Task) (conditions : Conditions)
    (outcome : Except PipelineFault Unit), pipeline.cache = cache ∧
    Job.Leads (openWorld conditions) (task.work pipeline partition).run before (.done outcome)
      after ∧
    ∀ reason, outcome = .error (.cache reason) → after = before

theorem Settled.called {after : Diary} (settled : Settled cache partition record diary)
    (called : Called cache partition diary after) :
    ∃ record, Settled cache partition record after := by
  obtain ⟨pipeline, task, conditions, outcome, rfl, leads, saves⟩ := called
  have ended := ((Pipeline.Task.work_meets upholds_settled task settled).of_leads leads).2 _ rfl
  cases outcome with
  | ok done => exact ended
  | error fault =>
      rcases ended with ⟨reason, rfl⟩ | found
      · rw [saves reason rfl]
        exact ⟨record, settled⟩
      · exact found

/-- After any calls of commands on a partition, from no cache file on, there is at most one
registry of the partition, as `OneRegistry` says. -/
theorem one_registry_of_calls {after : Diary}
    (calls : Relation.ReflTransGen (Called cache partition) {} after) :
    after.cache = fileAfter after.events ∧ OneRegistry cache partition after.events := by
  have settled : ∃ record, Settled cache partition record after := by
    induction calls with
    | refl => exact ⟨{}, founded_empty, rfl⟩
    | tail _ called ih =>
        obtain ⟨record, settled⟩ := ih
        exact settled.called called
  obtain ⟨record, settled⟩ := settled
  exact ⟨settled.founded.file, settled.founded.orderly.oneRegistry⟩

theorem Stage.called (stage : Stage) (task : Pipeline.Task) (diary : Diary)
    (fine : (stage.perform (task.work pipeline ⟨0, 0⟩) diary).1.isOk = true) :
    Called pipeline.cache ⟨0, 0⟩ diary (stage.perform (task.work pipeline ⟨0, 0⟩) diary).2 := by
  refine ⟨pipeline, task, stage.conditions, _, rfl, stage.leads_perform _ _, ?_⟩
  intro reason failed
  rw [failed] at fine
  cases fine

/-- A publication that is interrupted, then a whole one: one registry, which is created by the
second call and written to once. -/
theorem one_registry_after_interruption :
    ∃ after : Diary, openings after.events = [⟨"0a", "registry-0a"⟩] ∧
      (after.events.countP fun event => event matches .begun _) = 1 ∧
      after.cache = fileAfter after.events ∧
      OneRegistry Stage.pipeline.cache ⟨0, 0⟩ after.events := by
  let publish := Pipeline.Task.publish.work Stage.pipeline ⟨0, 0⟩
  let cut := Stage.perform { Stage.sample with refused := [1] } publish {}
  have told : cut.1.isOk = true ∧ (Stage.sample.perform publish cut.2).1.isOk = true ∧
      openings (Stage.sample.perform publish cut.2).2.events = [⟨"0a", "registry-0a"⟩] ∧
      ((Stage.sample.perform publish cut.2).2.events.countP fun event => event matches .begun _)
        = 1 := by
    decide +kernel
  obtain ⟨fine, fine', opened, begun⟩ := told
  have first := Stage.called { Stage.sample with refused := [1] } .publish {} fine
  have second := Stage.called Stage.sample .publish cut.2 fine'
  exact ⟨_, opened, begun, one_registry_of_calls ((Relation.ReflTransGen.single first).tail second)⟩

end Site

end Cadastre
