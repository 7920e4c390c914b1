import Cadastre.Proofs.Pipeline.Idling
import Mathlib.Logic.Relation

/-!
Publishing is idempotent. After a publication that was whole no command on the partition has
anything left to do, as long as the grid and the directory stay as they are. Whatever is done to
other partitions meanwhile leaves the partition's page alone.
-/

namespace Cadastre

open ProgressCache

namespace Site

variable {cache : ProgressCache} {partition : Partition} {record grown : Record}
  {before state after : Diary}

structure Worked (cache : ProgressCache) (partition : Partition) (before : Diary) (record : Record)
    (after : Diary) : Prop where
  tells : cache.Tells after.cache partition record
  linked : record.Linked
  others : ∀ other, other ≠ partition → ∀ kept, cache.Tells before.cache other kept →
    cache.Tells after.cache other kept

theorem Worked.refl (tells : cache.Tells state.cache partition record) (linked : record.Linked) :
    Worked cache partition state record state :=
  ⟨tells, linked, fun _ _ _ => id⟩

theorem Worked.renew {bytes : Bytes} (worked : Worked cache partition before record state)
    (linked : grown.Linked) (renews : cache.Renews partition grown state.cache (some bytes)) :
    Worked cache partition before grown (state.save bytes) := by
  refine ⟨renews.tells, linked, fun other different kept tells => ?_⟩
  exact renews.others other different kept (worked.others other different kept tells)

theorem upholds_worked {inv : Diary → Prop}
    (inside : ∀ record state, Worked cache partition before record state → inv state) :
    Upholds cache partition inv (fun _ _ => True) (Worked cache partition before)
      (fun _ => Worked cache partition before) where
  inside worked := inside _ _ worked
  tells worked := worked.tells
  linked worked := worked.linked
  stops _ _ := trivial
  unsaved _ _ := trivial
  turns worked _ := ⟨worked.tells, worked.linked, worked.others⟩
  fills worked fills renews := worked.renew (worked.linked.fills fills) renews
  opens worked _ _ _ _ := ⟨worked.tells, worked.linked, worked.others⟩
  waits worked := ⟨inside _ _ worked, worked.tells⟩
  names worked renews := worked.renew worked.linked renews
  begins worked _ _ := ⟨worked.tells, worked.linked, worked.others⟩
  marks worked _ marks renews := worked.renew (worked.linked.marks marks) renews

def Readable (cache : ProgressCache) (state : Diary) : Prop :=
  ∀ partition, ∃ record, cache.Tells state.cache partition record ∧ record.Linked

theorem readable_empty (cache : ProgressCache) : Readable cache {} :=
  fun partition => ⟨{}, tells_none cache partition, Record.linked_empty⟩

theorem Readable.worked (readable : Readable cache before)
    (worked : Worked cache partition before record after) : Readable cache after := by
  intro other
  by_cases same : other = partition
  · subst same
    exact ⟨record, worked.tells, worked.linked⟩
  · obtain ⟨kept, tells, linked⟩ := readable other
    exact ⟨kept, worked.others other same kept tells, linked⟩

theorem Readable.worked_of_meets {α : Type} {work : Work α} {post : α → Diary → Prop}
    {conditions : Conditions} {left : Job Site (Except PipelineFault α)}
    (readable : Readable cache before)
    (meets : ∀ record, Worked cache partition before record before →
      Work.Meets conditions.Answers
        (fun state => ∃ record, Worked cache partition before record state) post (fun _ _ => True)
        work before)
    (leads : Job.Leads (openWorld conditions) work.run before left after) :
    ∃ record, Worked cache partition before record after := by
  obtain ⟨record, tells, linked⟩ := readable partition
  exact ((meets record (.refl tells linked)).of_leads leads).1

theorem Readable.worked_of_task {pipeline : Pipeline} {task : Pipeline.Task}
    {conditions : Conditions} {left : Job Site (Except PipelineFault Unit)}
    (readable : Readable pipeline.cache before)
    (leads : Job.Leads (openWorld conditions) (task.work pipeline partition).run before left
      after) : ∃ record, Worked pipeline.cache partition before record after :=
  readable.worked_of_meets (fun _ stood => Pipeline.Task.work_meets
    (upholds_worked fun record _ worked => ⟨record, worked⟩) task stood) leads

def Turned (cache : ProgressCache) (within : Pipeline → Partition → Conditions → Prop)
    (before after : Diary) : Prop :=
  ∃ (pipeline : Pipeline) (partition : Partition) (task : Pipeline.Task)
    (conditions : Conditions) (left : Job Site (Except PipelineFault Unit)),
    pipeline.cache = cache ∧ within pipeline partition conditions ∧
    Job.Leads (openWorld conditions) (task.work pipeline partition).run before left after

theorem Readable.turned {within : Pipeline → Partition → Conditions → Prop}
    (readable : Readable cache before) (turned : Turned cache within before after) :
    Readable cache after := by
  obtain ⟨pipeline, partition, task, conditions, left, rfl, _, leads⟩ := turned
  obtain ⟨record, worked⟩ := readable.worked_of_task leads
  exact readable.worked worked

theorem Readable.history {within : Pipeline → Partition → Conditions → Prop}
    (readable : Readable cache before)
    (history : Relation.ReflTransGen (Turned cache within) before after) :
    Readable cache after := by
  induction history with
  | refl => exact readable
  | tail _ turned ih => exact ih.turned turned

end Site

namespace Assets

variable {assets : Assets} {conditions : Site.Conditions} {group : List FilePair}
  {uploaded : List UploadedPair} {remapper : Remapper} {record grown : Record}

theorem completed_of_deposits (supplies : assets.Supplies conditions)
    (digits : assets.WritesDigits) (deposits : conditions.Deposits group uploaded)
    (fills : record.Fills remapper uploaded grown) {pair : FilePair} (member : pair ∈ group)
    (among : pair ∈ Source.pairs assets.dir assets.entries) :
    grown.completedKeys.contains (toString pair.key) = true := by
  obtain ⟨prepared, loaded, delivered⟩ := deposits
  obtain ⟨ready, found, loads⟩ := exists_of_forall₂ loaded pair member
  obtain ⟨stored, there, stores⟩ :=
    exists_of_forall₂ (conditions.stores _ _ delivered).flip ready found
  obtain ⟨_, key, _, filled, _, entry⟩ := fills.entered stored there
  obtain ⟨bytes, read, accepted⟩ := loads.manifest
  have numbered := ((Source.readManifest_eq_ok_iff _ _ _).mp accepted).2
  have named := (Item.indexInName?_eq_toString_iff numbered).mpr
    (digits pair among bytes _ (supplies.reads _ _ read) accepted)
  refine Record.contains_completedKeys_of_get? entry filled ?_
  rw [Item.nameKey?, stores.name, named]

structure Storing (assets : Assets) (cache : ProgressCache) (partition : Partition)
    (candidates : List FilePair) (groups : List (List FilePair)) (record : Record)
    (state : Site.Diary) : Prop where
  tells : cache.Tells state.cache partition record
  linked : record.Linked
  among : ∀ pair ∈ groups.flatten, pair ∈ Source.pairs assets.dir assets.entries
  known : ∀ pair ∈ candidates, pair ∈ groups.flatten ∨
    record.completedKeys.contains (toString pair.key) = true

end Assets

namespace Pipeline

variable {pipeline : Pipeline} {assets : Assets} {conditions : Site.Conditions}
  {partition : Partition} {record : Record} {state : Site.Diary} {handle : PartitionHandle}

theorem uploadHandle_completes (dir : pipeline.assetsDir = assets.dir)
    (supplies : assets.Supplies conditions) (digits : assets.WritesDigits)
    (tells : pipeline.cache.Tells state.cache handle.partition handle.record)
    (linked : handle.record.Linked) :
    Work.Meets conditions.Answers (fun _ => True)
      (fun result after => result.2.partition = handle.partition ∧
        pipeline.cache.Tells after.cache handle.partition result.2.record ∧ result.2.record.Linked ∧
        (result.1.interrupted = false → ∃ candidates,
          Source.inPartition pipeline.remapper handle.partition
            (Source.pairs assets.dir assets.entries) = .ok candidates ∧
          result.2.record.pendingPairs candidates = []))
      (fun _ _ => True) (pipeline.uploadHandle handle) state := by
  have listing : ∀ candidates, Source.ListedBy conditions.Lists pipeline.assetsDir
      pipeline.remapper handle.partition candidates →
      Source.inPartition pipeline.remapper handle.partition
        (Source.pairs assets.dir assets.entries) = .ok candidates := by
    rintro candidates ⟨entries, lists, inside⟩
    rw [supplies.lists entries lists, dir] at inside
    exact inside
  refine (uploadHandle_meets (assets.Storing pipeline.cache handle.partition)
    (fun _ _ _ _ _ => trivial) (fun _ _ _ _ storing => storing.tells) ?_ ?_ (fun _ => trivial)
    (fun _ _ _ _ _ _ => trivial) (fun _ _ _ => trivial) trivial).weaken ?_ fun _ _ _ => id
  · intro candidates groups listed flat
    refine ⟨tells, linked, fun pair member => ?_, fun pair member => ?_⟩
    · rw [flat] at member
      exact (Source.inPartition_sublist (listing _ listed)).subset
        ((Record.mem_pendingPairs_iff _ _ _).mp member).1
    · rw [flat, Record.mem_pendingPairs_iff]
      by_cases completed : handle.record.completedKeys.contains (toString pair.key) = true
      · exact Or.inr completed
      · exact Or.inl ⟨member, completed⟩
  · intro candidates group rest record state uploaded grown bytes storing deposits fills renews
    refine ⟨renews.tells, storing.linked.fills fills, fun pair member => ?_, fun pair member => ?_⟩
    · exact storing.among pair (List.flatten_cons ▸ List.mem_append_right _ member)
    · rcases storing.known pair member with waiting | completed
      · rw [List.flatten_cons] at waiting
        rcases List.mem_append.mp waiting with now | later
        · -- Its name has the index in digits, so that the pair is found again by it.
          have among := storing.among pair (List.flatten_cons ▸ List.mem_append_left _ now)
          exact Or.inr (Assets.completed_of_deposits supplies digits deposits fills now among)
        · exact Or.inl later
      · exact Or.inr (fills.completed completed)
  · rintro ⟨summary, place, grown⟩ after _ ⟨same, candidates, left, listed, storing, none⟩
    refine ⟨same, storing.tells, storing.linked, fun whole => ⟨candidates, listing _ listed, ?_⟩⟩
    refine List.eq_nil_iff_forall_not_mem.mpr fun pair pending => ?_
    obtain ⟨member, missing⟩ := (Record.mem_pendingPairs_iff _ _ _).mp pending
    rw [none whole] at storing
    exact missing ((storing.known pair member).resolve_left (by simp))

theorem Syncs.pendingPairs {handle synced : PartitionHandle} {report : SyncReport}
    {candidates : List FilePair} (syncs : Syncs handle report synced)
    (none : handle.record.pendingPairs candidates = []) :
    synced.record.pendingPairs candidates = [] := by
  refine List.eq_nil_iff_forall_not_mem.mpr fun pair pending => ?_
  obtain ⟨member, missing⟩ := (Record.mem_pendingPairs_iff _ _ _).mp pending
  have earlier : ¬ pair ∈ handle.record.pendingPairs candidates := by simp [none]
  rw [Record.mem_pendingPairs_iff, not_and, not_not] at earlier
  obtain ⟨key, item, held, filled, named⟩ :=
    (Record.contains_completedKeys_iff _ _).mp (earlier member)
  obtain ⟨marked, found, same⟩ : ∃ marked, synced.record.get? key = some marked ∧
      marked.entry = item.entry := by
    have entry := syncs.entry key
    rw [held] at entry
    exact Option.map_eq_some_iff.mp entry
  simp only [Item.entry, RegistryEntry.mk.injEq] at same
  refine missing ((Record.contains_completedKeys_iff _ _).mpr ⟨key, marked, found, ?_, ?_⟩)
  · rw [same.2]
    exact filled
  · rw [Item.nameKey?, same.1]
    exact named

theorem publish_publishes (dir : pipeline.assetsDir = assets.dir)
    (supplies : assets.Supplies conditions) (digits : assets.WritesDigits)
    (tells : pipeline.cache.Tells state.cache partition record) (linked : record.Linked) :
    Work.Meets conditions.Answers (fun _ => True)
      (fun report after => report.upload.interrupted = false → report.sync.isComplete = true →
        ∃ record, pipeline.cache.Tells after.cache partition record ∧
          assets.Published pipeline.remapper partition record)
      (fun _ _ => True) (pipeline.publish partition) state := by
  rw [publish]
  refine Work.Meets.bind _ (openPartition_tells tells trivial fun _ => trivial) ?_
  rintro _ after _ ⟨rfl, rfl, contains⟩
  refine Work.Meets.bind _ (uploadHandle_completes dir supplies digits tells linked) ?_
  rintro ⟨summary, ⟨place, grown⟩⟩ later _ ⟨rfl, tells, linked, whole⟩
  dsimp only at tells linked whole ⊢
  split
  · rename_i interrupted
    refine Work.Meets.bind _ (emptyReport_meets trivial) ?_
    intro report last _ _
    refine Work.Meets.pure trivial fun whole => ?_
    rw [interrupted] at whole
    cases whole
  · rename_i uninterrupted
    obtain ⟨candidates, listed, none⟩ := whole (by simpa using uninterrupted)
    refine Work.Meets.bind _ (syncHandle_meets (Site.upholds_worked fun _ _ _ => trivial)
      (Site.Worked.refl tells linked)) ?_
    rintro ⟨report, synced⟩ last _ ⟨worked, syncs, registered⟩
    refine Work.Meets.pure trivial fun _ complete => ⟨synced.record, worked.tells, contains,
      ⟨candidates, listed, syncs.pendingPairs none⟩, worked.linked, ?_, registered⟩
    apply syncs.complete
    intro window member
    have settled := List.all_eq_true.mp complete window member
    cases outcome : window.outcome with
    | failed reason => simp [outcome, WindowOutcome.isSettled] at settled
    | _ => rfl

end Pipeline

/-- Whether the partition is worked on with this grid and these files; other partitions may be
worked on in any way. -/
def Assets.StillAt (assets : Assets) (remapper : Remapper) (partition : Partition)
    (pipeline : Pipeline) (other : Partition) (conditions : Site.Conditions) : Prop :=
  other = partition → pipeline.remapper = remapper ∧ pipeline.assetsDir = assets.dir ∧
    assets.Supplies conditions

section

variable {assets : Assets} {cache : ProgressCache} {remapper : Remapper} {partition : Partition}
  {record : Record} {before after now : Site.Diary}

theorem Site.Turned.tells (published : assets.Published remapper partition record)
    (readable : Readable cache before) (tells : cache.Tells before.cache partition record)
    (turned : Turned cache (assets.StillAt remapper partition) before after) :
    cache.Tells after.cache partition record := by
  obtain ⟨pipeline, other, task, conditions, left, rfl, still, leads⟩ := turned
  by_cases same : other = partition
  · subst same
    obtain ⟨rfl, dir, supplies⟩ := still rfl
    have idle : Work.Idle assets.entries True before (task.work pipeline other) fun _ => True :=
      Pipeline.Task.work_idle published tells dir task
    obtain ⟨rfl, _⟩ := Work.Meets.of_leads_served idle
      (fun _ _ _ _ asked answer => glances_of_answers supplies asked answer) leads
    exact tells
  · obtain ⟨_, worked⟩ := readable.worked_of_task leads
    exact worked.others partition (Ne.symm same) record tells

/-- After a publication of a partition that ended well, was not interrupted and is complete, every
later upload, sync or publication of it in the same directory makes do with looks, changes nothing
and reports nothing pending and skipped windows alone, whatever its windows, budget and
concurrency. -/
theorem publication_is_idempotent {pipeline later : Pipeline} {conditions : Site.Conditions}
    {report : PublishReport} {lossy : Prop}
    (shared : pipeline.cache = cache ∧ pipeline.remapper = remapper ∧
      pipeline.assetsDir = assets.dir)
    (shared' : later.cache = cache ∧ later.remapper = remapper ∧ later.assetsDir = assets.dir)
    (supplies : assets.Supplies conditions) (digits : assets.WritesDigits)
    (history : Relation.ReflTransGen (Site.Turned cache fun _ _ _ => True) {} before)
    (leads : Job.Leads (Site.openWorld conditions) (pipeline.publish partition).run before
      (.done (.ok report)) after)
    (whole : report.upload.interrupted = false) (complete : report.sync.isComplete = true)
    (since : Relation.ReflTransGen (Site.Turned cache (assets.StillAt remapper partition)) after
      now) :
    Work.Idle assets.entries lossy now (later.upload partition) (· = ⟨0, 0, 0, false⟩) ∧
      Work.Idle assets.entries lossy now (later.sync partition) (fun report =>
        ∀ window ∈ report.windows, window.outcome = .skipped) ∧
      Work.Idle assets.entries lossy now (later.publish partition) fun report =>
        report.upload = ⟨0, 0, 0, false⟩ ∧
          ∀ window ∈ report.sync.windows, window.outcome = .skipped := by
  obtain ⟨rfl, rfl, dir⟩ := shared
  obtain ⟨cached, placed, dir'⟩ := shared'
  have readable := (Site.readable_empty pipeline.cache).history history
  obtain ⟨record, tells, linked⟩ := readable partition
  obtain ⟨last, tells', published⟩ :=
    ((Pipeline.publish_publishes dir supplies digits tells linked).of_leads leads).2 _ rfl whole
      complete
  have stood : Site.Readable pipeline.cache now ∧
      pipeline.cache.Tells now.cache partition last := by
    induction since with
    | refl =>
        obtain ⟨_, worked⟩ := readable.worked_of_meets (fun _ stood => Pipeline.publish_meets
          (Site.upholds_worked fun record _ worked => ⟨record, worked⟩) stood) leads
        exact ⟨readable.worked worked, tells'⟩
    | tail _ turned ih => exact ⟨ih.1.turned turned, turned.tells published ih.1 ih.2⟩
  rw [← placed] at published
  rw [← cached] at stood
  exact ⟨Pipeline.upload_idle published stood.2 dir', Pipeline.sync_idle published stood.2,
    Pipeline.publish_idle published stood.2 dir'⟩

end

theorem Regrouping.writesDigits_sample : Regrouping.sample.assets.WritesDigits := by
  have pairs : Source.pairs Regrouping.sample.assets.dir Regrouping.sample.assets.entries
      = [⟨0, "assets/0.png", "assets/0.json", 49⟩, ⟨1, "assets/1.png", "assets/1.json", 49⟩] := by
    decide +kernel
  have named : ∀ pair ∈ Source.pairs Regrouping.sample.assets.dir Regrouping.sample.assets.entries,
      (Regrouping.sample.assets.file pair.metadata).bind (fun bytes =>
        (Source.readManifest pair bytes).toOption.map Manifest.name)
          = some ("Land #" ++ toString pair.key) := by
    rw [pairs]
    decide +kernel
  have digits : ∀ pair ∈ Source.pairs Regrouping.sample.assets.dir Regrouping.sample.assets.entries,
      Item.WritesDigits ("Land #" ++ toString pair.key) := by
    rw [pairs]
    intro pair member
    simp only [List.mem_cons, List.not_mem_nil, or_false] at member
    rcases member with rfl | rfl
    · exact ⟨['0'], by decide +kernel, by decide, by decide⟩
    · exact ⟨['1'], by decide +kernel, by decide, by decide⟩
  intro pair member bytes manifest found accepted
  have name := named pair member
  rw [found, Option.bind_some, accepted] at name
  rw [show manifest.name = "Land #" ++ toString pair.key from Option.some.inj name]
  exact digits pair member

/-- After an interrupted publication and a whole one, commands with smaller windows and whole
batches do nothing more. -/
theorem third_publication_is_idle :
    ∃ (report : PublishReport) (after : Site.Diary),
      report.upload.pending = 1 ∧ report.sync.written = 1 ∧
      let later := { Site.Stage.pipeline with windowSize := 1, bundled := true }
      Work.Idle Site.Stage.sample.entries False after (later.upload ⟨0, 0⟩) (· = ⟨0, 0, 0, false⟩) ∧
        Work.Idle Site.Stage.sample.entries False after (later.sync ⟨0, 0⟩) (fun report =>
          ∀ window ∈ report.windows, window.outcome = .skipped) ∧
        Work.Idle Site.Stage.sample.entries False after (later.publish ⟨0, 0⟩) fun report =>
          report.upload = ⟨0, 0, 0, false⟩ ∧
            ∀ window ∈ report.sync.windows, window.outcome = .skipped := by
  let cut : Site.Diary := (Site.Stage.perform { Site.Stage.sample with refused := [1] }
    (Pipeline.Task.publish.work Site.Stage.pipeline ⟨0, 0⟩) {}).2
  have turned : Site.Turned Site.Stage.pipeline.cache (fun _ _ _ => True) {} cut :=
    ⟨Site.Stage.pipeline, ⟨0, 0⟩, .publish, ({ Site.Stage.sample with refused := [1] }).conditions,
      _, rfl, trivial, ({ Site.Stage.sample with refused := [1] }).leads_perform _ _⟩
  obtain ⟨result, after, leads, told⟩ : ∃ result after,
      Job.Leads (Site.openWorld Site.Stage.sample.conditions)
        (Site.Stage.pipeline.publish ⟨0, 0⟩).run cut (.done result) after ∧
      result.toOption.map (fun report => (report.upload.pending, report.upload.interrupted,
        report.sync.written, report.sync.isComplete)) = some (1, false, 1, true) :=
    ⟨_, _, Site.Stage.sample.leads_perform _ cut, by decide +kernel⟩
  cases result with
  | error fault => cases told
  | ok report =>
      simp only [Except.toOption, Option.map_some, Option.some.injEq, Prod.mk.injEq] at told
      obtain ⟨pending, whole, written, complete⟩ := told
      have shared : Site.Stage.pipeline.cache = Site.Stage.pipeline.cache ∧
          Site.Stage.pipeline.remapper = Site.Stage.pipeline.remapper ∧
          Site.Stage.pipeline.assetsDir = Regrouping.sample.assets.dir := ⟨rfl, rfl, rfl⟩
      have supplies : Regrouping.sample.assets.Supplies Site.Stage.sample.conditions :=
        ⟨fun _ same => same, fun _ _ same => same⟩
      exact ⟨report, after, pending, written, publication_is_idempotent shared ⟨rfl, rfl, rfl⟩
        supplies Regrouping.writesDigits_sample (.single turned) leads whole complete .refl⟩

end Cadastre
