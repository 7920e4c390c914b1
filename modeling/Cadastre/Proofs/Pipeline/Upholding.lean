import Cadastre.Proofs.Pipeline.Depositing
import Cadastre.Proofs.Pipeline.Writing

/-!
What the commands on a partition uphold, at a site of any kind. An assertion that goes through each
thing that a command may do to the partition's record goes through every command.
-/

namespace Cadastre

namespace Record

variable {record grown : Record}

theorem Linked.fills {remapper : Remapper} {uploaded : List UploadedPair} (linked : record.Linked)
    (fills : record.Fills remapper uploaded grown) : grown.Linked := by
  intro key item held
  rcases fills.cases held with ⟨filled, _⟩ | earlier
  · exact filled
  · exact linked key item earlier

def withProgram (record : Record) (handle : RegistryHandle) : Record :=
  { record with program := some ⟨handle.uniqueId, handle.locator⟩ }

def Registered (record : Record) : Prop := record.items.isEmpty = false → record.program ≠ none

end Record

/-- An assertion on the partition's record and the state that goes through all that a command does.
While the record awaits the identifiers of a registry that was just created, another one holds. -/
structure Site.Upholds (cache : ProgressCache) (partition : Partition) (inv : Diary → Prop)
    (fails : PipelineFault → Diary → Prop) (stands : Record → Diary → Prop)
    (awaits : RegistryHandle → Record → Diary → Prop) : Prop where
  inside : ∀ {record state}, stands record state → inv state
  tells : ∀ {record state}, stands record state → cache.Tells state.cache partition record
  linked : ∀ {record state}, stands record state → record.Linked
  stops : ∀ {record state}, stands record state → ∀ fault, fails fault state
  unsaved : ∀ {fault} state, fault.IsCache → fails fault state
  turns : ∀ {record state}, stands record state → ∀ ledger,
    stands record (state.withLedger ledger)
  fills : ∀ {remapper uploaded record grown state bytes}, stands record state →
    record.Fills remapper uploaded grown →
    cache.Renews partition grown state.cache (some bytes) → stands grown (state.save bytes)
  opens : ∀ {record state}, stands record state → record.program = none →
    record.items.isEmpty = false → ∀ handle ledger,
      awaits handle record ((state.withLedger ledger).note (.opened handle))
  waits : ∀ {handle record state}, awaits handle record state →
    inv state ∧ cache.Tells state.cache partition record
  names : ∀ {handle record state bytes}, awaits handle record state →
    cache.Renews partition (record.withProgram handle) state.cache (some bytes) →
      stands (record.withProgram handle) (state.save bytes)
  begins : ∀ {record state append}, stands record state →
    record.registryHandle? = some append.handle → ∀ ledger,
      stands record ((state.withLedger ledger).note (.begun append))
  marks : ∀ {keys record marked state bytes}, stands record state → record.program ≠ none →
    record.MarksTo keys marked → cache.Renews partition marked state.cache (some bytes) →
      stands marked (state.save bytes)

namespace Pipeline

variable {conditions : Site.Conditions} {inv : Site.Diary → Prop}
  {fails : PipelineFault → Site.Diary → Prop} {state : Site.Diary} {pipeline : Pipeline}
  {stands : Record → Site.Diary → Prop} {awaits : RegistryHandle → Record → Site.Diary → Prop}

section Pass

variable {start : PartitionHandle} {windows : List Window} {dealt : Window → Prop} {pass : Pass}
  {registry : RegistryHandle}
  (upholds : Site.Upholds pipeline.cache start.partition inv fails stands awaits)
  (cuts : start.record.Cuts windows) (named : start.record.registryHandle? = some registry)

include upholds cuts named

theorem applyResult_meets {pending : Pass.Pending} {result : Except RegistryFault Unit}
    (keeps : pass.Keeps start windows dealt) (member : pending.window ∈ windows)
    (stood : stands pass.handle.record state) :
    Work.Meets conditions.Answers inv
      (fun after state => stands after.handle.record state ∧
        after.Keeps start windows (fun other => other = pending.window ∨ dealt other) ∧
        after.underWay = pass.underWay) fails
      (pipeline.applyResult pass pending.window result) state := by
  cases result with
  | error fault =>
      exact Work.Meets.pure (upholds.inside stood)
        ⟨stood, keeps.settle _ cuts.apart member (Or.inl rfl), rfl⟩
  | ok done =>
      obtain ⟨marked, checked, marks⟩ := pass.handle.record.check_markWindow pending.window
      have unnamed : pass.handle.record.program ≠ none := by
        obtain ⟨keys, earlier⟩ := keeps.marks
        rw [earlier.program]
        intro none
        rw [Record.registryHandle?, none] at named
        cases named
      have keeps' := (keeps.mark marks).settle .written cuts.apart member
        (Or.inr fun key found => marks.onChain_of_mem (upholds.linked stood) found)
      simp only [applyResult, checked, pure_bind]
      refine Work.Meets.bind (fun _ after => stands marked after) ?_ ?_
      · rw [persist, keeps.place]
        refine (ProgressCache.writeRecord_meets (upholds.tells stood) (upholds.inside stood)
          (fun bytes renews => upholds.inside (upholds.marks stood unnamed marks renews))
          fun reason after => upholds.unsaved after ⟨reason, rfl⟩).weaken ?_ fun _ _ _ => id
        rintro _ after _ ⟨bytes, renews, rfl⟩
        exact upholds.marks stood unnamed marks renews
      · intro _ after within stood
        exact Work.Meets.pure within ⟨stood, keeps', rfl⟩

theorem awaitOne_meets (keeps : pass.Keeps start windows dealt)
    (stood : stands pass.handle.record state) :
    Work.Meets conditions.Answers inv
      (fun after state => stands after.handle.record state ∧ after.Keeps start windows dealt ∧
        after.underWay.length = pass.underWay.length - 1) fails
      (pipeline.awaitOne pass) state := by
  unfold awaitOne
  split
  · rename_i none
    exact Work.Meets.pure (upholds.inside stood) ⟨stood, keeps, by rw [none]; rfl⟩
  · rename_i first rest waiting
    refine Work.Meets.bind _ (awaitAppend_meets (upholds.inside stood)
      fun ledger => upholds.inside (upholds.turns stood ledger)) ?_
    rintro ⟨place, result⟩ _ within ⟨ledger, rfl⟩
    have bound : place.val < (first :: rest).length := by simpa using place.isLt
    have there := Pass.get_underWay waiting bound
    have ended := keeps.end there
    obtain ⟨member, _⟩ := keeps.underWay _ (List.mem_of_getElem? there)
    rw [waiting] at ended
    refine (applyResult_meets upholds cuts named ended member
      (upholds.turns stood ledger)).weaken ?_ fun _ _ _ => id
    rintro later state _ ⟨stood, keeps, same⟩
    refine ⟨stood, keeps.rejoin, ?_⟩
    rw [same, waiting, List.length_eraseIdx_of_lt bound]

theorem awaitAll_meets (count : Nat) (keeps : pass.Keeps start windows dealt)
    (stood : stands pass.handle.record state) :
    Work.Meets conditions.Answers inv
      (fun after state => stands after.handle.record state ∧ after.Keeps start windows dealt ∧
        after.underWay.length = pass.underWay.length - count) fails
      (pipeline.awaitAll pass count) state := by
  induction count generalizing pass state with
  | zero => exact Work.Meets.pure (upholds.inside stood) ⟨stood, keeps, rfl⟩
  | succ count ih =>
      refine Work.Meets.bind _ (awaitOne_meets upholds cuts named keeps stood) ?_
      rintro next after _ ⟨stood, keeps, fewer⟩
      refine (ih keeps stood).weaken ?_ fun _ _ _ => id
      rintro last state _ ⟨stood, keeps, left⟩
      exact ⟨stood, keeps, by omega⟩

theorem dispatch_meets (keeps : pass.Keeps start windows dealt) {window : Window}
    (member : window ∈ windows) (stood : stands pass.handle.record state) :
    Work.Meets conditions.Answers inv
      (fun after state => stands after.handle.record state ∧
        after.Keeps start windows fun other => other = window ∨ dealt other) fails
      (pipeline.dispatch registry pass window) state := by
  unfold dispatch
  dsimp only
  split
  · rename_i all
    exact Work.Meets.pure (upholds.inside stood) ⟨stood, keeps.settle _ cuts.apart member
      (Or.inr fun key found item => Record.onChain_of_allOnChain all found)⟩
  · obtain ⟨entries, ready, covered⟩ := keeps.ready cuts named member (upholds.linked stood)
    have begun := keeps.begin ⟨window, ⟨registry, entries, window.first⟩⟩ member covered
    have handed : pass.handle.record.registryHandle? = some registry := by
      obtain ⟨keys, marks⟩ := keeps.marks
      rw [Record.registryHandle?, marks.program]
      exact named
    have begins : ∀ ledger, stands pass.handle.record
        ((state.withLedger ledger).note (.begun ⟨registry, entries, window.first⟩)) :=
      upholds.begins stood handed
    simp only [ready]
    refine Work.Meets.bind _ (startAppend_meets (upholds.inside stood)
      fun ledger => upholds.inside (begins ledger)) ?_
    rintro _ _ within ⟨ledger, rfl⟩
    split
    · refine (awaitOne_meets upholds cuts named begun (begins ledger)).weaken ?_ fun _ _ _ => id
      exact fun _ _ _ held => ⟨held.1, held.2.1⟩
    · exact Work.Meets.pure within ⟨begins ledger, begun⟩

theorem dispatchAll_meets (later : List Window) (among : ∀ window ∈ later, window ∈ windows)
    (keeps : pass.Keeps start windows dealt) (stood : stands pass.handle.record state) :
    Work.Meets conditions.Answers inv
      (fun after state => stands after.handle.record state ∧
        (after.Keeps start windows fun other => other ∈ later ∨ dealt other) ∧
        after.underWay = []) fails
      (pipeline.dispatchAll registry pass later) state := by
  induction later generalizing dealt pass state with
  | nil =>
      refine (awaitAll_meets upholds cuts named pass.underWay.length keeps stood).weaken ?_
        fun _ _ _ => id
      rintro after state _ ⟨stood, keeps, none⟩
      refine ⟨stood, keeps.weaken fun window _ asked => ?_, ?_⟩
      · exact asked.resolve_left (List.not_mem_nil)
      · rw [Nat.sub_self] at none
        exact List.length_eq_zero_iff.mp none
  | cons window rest ih =>
      refine Work.Meets.bind _ (dispatch_meets upholds cuts named keeps
        (among window List.mem_cons_self) stood) ?_
      rintro next after _ ⟨stood, keeps⟩
      refine (ih (fun other found => among other (List.mem_cons_of_mem _ found)) keeps
        stood).weaken ?_ fun _ _ _ => id
      rintro last state _ ⟨stood, keeps, none⟩
      exact ⟨stood, keeps.cons, none⟩

end Pass

section Handle

variable {handle : PartitionHandle}
  (upholds : Site.Upholds pipeline.cache handle.partition inv fails stands awaits)

include upholds

theorem syncRegistry_meets {registry : RegistryHandle}
    (named : handle.record.registryHandle? = some registry) (stood : stands handle.record state) :
    Work.Meets conditions.Answers inv
      (fun result after => stands result.2.record after ∧ Syncs handle result.1 result.2 ∧
        result.2.record.Registered) fails
      (pipeline.syncRegistry handle registry) state := by
  refine Work.Meets.bind _ (now_meets (upholds.inside stood)) ?_
  rintro startedAt after within rfl
  have cuts := handle.record.cuts_ofKeys (max pipeline.windowSize 1)
  refine Work.Meets.bind _ (dispatchAll_meets upholds cuts named _ (fun _ => id)
    (Pass.Keeps.initial handle _) stood) ?_
  rintro pass last within ⟨stood, keeps, none⟩
  refine Work.Meets.pure within ⟨stood, syncs_of_keeps cuts keeps none, fun _ unnamed => ?_⟩
  obtain ⟨keys, marks⟩ := keeps.marks
  rw [marks.program] at unnamed
  rw [Record.registryHandle?, unnamed] at named
  cases named

theorem registryDefaults_meets {partition : Partition} (stood : stands handle.record state) :
    Work.Meets conditions.Answers inv (fun _ after => after = state) fails
      (pipeline.registryDefaults partition) state := by
  have within := upholds.inside stood
  have chosen : ∀ manifest, Work.Meets conditions.Answers inv (fun _ after => after = state) fails
      (Work.check (pipeline.collection.defaults manifest) id) state := by
    intro manifest
    exact Work.Meets.check within (fun _ _ => rfl) fun fault _ => upholds.stops stood fault
  refine Work.Meets.bind _ (Source.candidates_meets within (upholds.stops stood)) ?_
  rintro candidates after _ ⟨_, rfl⟩
  cases candidates with
  | nil => exact chosen none
  | cons first rest =>
      refine Work.Meets.bind (fun _ later => later = after) ?_ ?_
      · rw [map_eq_pure_bind]
        refine Work.Meets.bind _ (Source.manifest_meets within (upholds.stops stood)) ?_
        rintro manifest last inside ⟨_, rfl⟩
        exact Work.Meets.pure inside rfl
      · rintro manifest last _ rfl
        exact chosen manifest

theorem createRegistry_meets (unnamed : handle.record.program = none)
    (filled : handle.record.items.isEmpty = false) (stood : stands handle.record state) :
    Work.Meets conditions.Answers inv
      (fun result after => stands result.2.record after ∧
        result.2.partition = handle.partition ∧
        result.2.record = handle.record.withProgram result.1) fails
      (pipeline.createRegistry handle) state := by
  refine Work.Meets.bind _ (registryDefaults_meets upholds stood) ?_
  rintro defaults after within rfl
  have opens := upholds.opens stood unnamed filled
  refine Work.Meets.bind _ (register_meets within
    (fun ledger => upholds.inside (upholds.turns stood ledger))
    (fun ledger registry => (upholds.waits (opens registry ledger)).1)
    fun fault ledger => upholds.stops (upholds.turns stood ledger) fault) ?_
  rintro registry _ _ ⟨ledger, rfl⟩
  -- Until the save is done there is a registry that the record does not name.
  have waiting := opens registry ledger
  obtain ⟨inside, tells⟩ := upholds.waits waiting
  refine Work.Meets.bind (fun _ after => stands (handle.record.withProgram registry) after) ?_ ?_
  · refine (ProgressCache.writeRecord_meets tells inside
      (fun bytes renews => upholds.inside (upholds.names waiting renews))
      fun reason after => upholds.unsaved after ⟨reason, rfl⟩).weaken ?_ fun _ _ _ => id
    rintro _ after _ ⟨bytes, renews, rfl⟩
    exact upholds.names waiting renews
  · intro _ last inside stood
    exact Work.Meets.pure inside ⟨stood, rfl, rfl⟩

theorem syncHandle_meets (stood : stands handle.record state) :
    Work.Meets conditions.Answers inv
      (fun result after => stands result.2.record after ∧ Syncs handle result.1 result.2 ∧
        result.2.record.Registered) fails
      (pipeline.syncHandle handle) state := by
  unfold syncHandle
  split
  · rename_i empty
    refine Work.Meets.bind _ (emptyReport_meets (upholds.inside stood)) ?_
    rintro report after within ⟨_, rfl⟩
    refine Work.Meets.pure within ⟨stood, ⟨rfl, fun _ => rfl, fun _ key item held => ?_⟩, ?_⟩
    · change handle.record.items[key]? = some item at held
      rw [Std.ExtTreeMap.isEmpty_iff.mp empty] at held
      simp at held
    · intro filled
      rw [empty] at filled
      cases filled
  · rename_i filled
    split
    · rename_i registry named
      exact syncRegistry_meets upholds named stood
    · rename_i unnamed
      have unnamed : handle.record.program = none := Option.map_eq_none_iff.mp unnamed
      refine Work.Meets.bind _ (createRegistry_meets upholds unnamed (by simpa using filled)
        stood) ?_
      rintro ⟨registry, ⟨place, record⟩⟩ after _ ⟨stood, same, grown⟩
      dsimp only at stood same grown
      subst same grown
      let named : PartitionHandle := ⟨handle.partition, handle.record.withProgram registry⟩
      have upholds : Site.Upholds pipeline.cache named.partition inv fails stands awaits := upholds
      refine (syncRegistry_meets upholds rfl stood).weaken ?_ fun _ _ _ => id
      rintro ⟨report, last⟩ state _ ⟨stood, syncs, registered⟩
      exact ⟨stood, ⟨syncs.place, syncs.entry, syncs.complete⟩, registered⟩

theorem uploadHandle_upholds (stood : stands handle.record state) :
    Work.Meets conditions.Answers inv
      (fun result after => result.2.partition = handle.partition ∧ stands result.2.record after)
      fails (pipeline.uploadHandle handle) state := by
  refine (uploadHandle_meets (fun _ _ => stands) (fun _ _ _ _ => upholds.inside)
    (fun _ _ _ _ => upholds.tells) (fun _ _ _ _ => stood) ?_ (upholds.stops stood)
    (fun _ _ _ _ fault stood => upholds.stops stood fault)
    (fun fault state cache => upholds.unsaved state cache) (upholds.inside stood)).weaken ?_
    fun _ _ _ => id
  · intro _ group rest record state uploaded grown bytes stood _ fills renews
    exact upholds.fills stood fills renews
  · rintro ⟨summary, later⟩ after _ ⟨place, _, _, _, stood, _⟩
    exact ⟨place, stood⟩

end Handle

inductive Task where
  | upload
  | sync
  | publish

def Task.work (pipeline : Pipeline) (partition : Partition) : Task → Work Unit
  | upload => do
    let _ ← pipeline.upload partition
    pure ()
  | sync => do
    let _ ← pipeline.sync partition
    pure ()
  | publish => do
    let _ ← pipeline.publish partition
    pure ()

section Command

variable {partition : Partition} {record : Record}

theorem openPartition_tells (tells : pipeline.cache.Tells state.cache partition record)
    (inside : inv state) (failing : ∀ fault, fails fault state) :
    Work.Meets conditions.Answers inv
      (fun handle after => after = state ∧ handle = ⟨partition, record⟩ ∧
        pipeline.remapper.layout.contains partition = true) fails
      (pipeline.openPartition partition) state := by
  refine (openPartition_meets inside failing).weaken ?_ fun _ _ _ => id
  rintro ⟨place, held⟩ after _ ⟨rfl, rfl, contains, found, loaded, rfl⟩
  have same : found.getD {} = record :=
    ProgressCache.Tells.unique ⟨tells.opens, found, loaded, rfl⟩ tells
  rw [same]
  exact ⟨rfl, rfl, contains⟩

variable (upholds : Site.Upholds pipeline.cache partition inv fails stands awaits)

include upholds

theorem upload_meets (stood : stands record state) :
    Work.Meets conditions.Answers inv (fun _ after => ∃ record, stands record after) fails
      (pipeline.upload partition) state := by
  refine Work.Meets.bind _ (openPartition_tells (upholds.tells stood) (upholds.inside stood)
    (upholds.stops stood)) ?_
  rintro _ after _ ⟨rfl, rfl, _⟩
  refine Work.Meets.bind _ (uploadHandle_upholds upholds stood) ?_
  rintro ⟨summary, later⟩ last within ⟨_, stood⟩
  exact Work.Meets.pure within ⟨_, stood⟩

theorem sync_meets (stood : stands record state) :
    Work.Meets conditions.Answers inv (fun _ after => ∃ record, stands record after) fails
      (pipeline.sync partition) state := by
  refine Work.Meets.bind _ (openPartition_tells (upholds.tells stood) (upholds.inside stood)
    (upholds.stops stood)) ?_
  rintro _ after _ ⟨rfl, rfl, _⟩
  refine Work.Meets.bind _ (syncHandle_meets upholds stood) ?_
  rintro ⟨report, later⟩ last within ⟨stood, _⟩
  exact Work.Meets.pure within ⟨_, stood⟩

theorem publish_meets (stood : stands record state) :
    Work.Meets conditions.Answers inv (fun _ after => ∃ record, stands record after) fails
      (pipeline.publish partition) state := by
  refine Work.Meets.bind _ (openPartition_tells (upholds.tells stood) (upholds.inside stood)
    (upholds.stops stood)) ?_
  rintro _ after _ ⟨rfl, rfl, _⟩
  refine Work.Meets.bind _ (uploadHandle_upholds upholds stood) ?_
  rintro ⟨summary, ⟨place, grown⟩⟩ last within ⟨rfl, stood⟩
  dsimp only at stood ⊢
  split
  · refine Work.Meets.bind _ (emptyReport_meets within) ?_
    rintro report after inside ⟨_, rfl⟩
    exact Work.Meets.pure inside ⟨_, stood⟩
  · refine Work.Meets.bind _ (syncHandle_meets upholds stood) ?_
    rintro ⟨report, later⟩ after inside ⟨stood, _⟩
    exact Work.Meets.pure inside ⟨_, stood⟩

theorem Task.work_meets (task : Task) (stood : stands record state) :
    Work.Meets conditions.Answers inv (fun _ after => ∃ record, stands record after) fails
      (task.work pipeline partition) state := by
  cases task with
  | upload =>
      refine Work.Meets.bind _ (upload_meets upholds stood) ?_
      exact fun _ _ inside held => Work.Meets.pure inside held
  | sync =>
      refine Work.Meets.bind _ (sync_meets upholds stood) ?_
      exact fun _ _ inside held => Work.Meets.pure inside held
  | publish =>
      refine Work.Meets.bind _ (publish_meets upholds stood) ?_
      exact fun _ _ inside held => Work.Meets.pure inside held

end Command

end Pipeline

end Cadastre
