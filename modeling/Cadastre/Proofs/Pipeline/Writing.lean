import Cadastre.Proofs.Pipeline.Bookkeeping
import Cadastre.Proofs.Pipeline.Passes
import Cadastre.Proofs.Pipeline.Uploading

/-!
Writing to the registry keeps the books. A pass begins with a record whose items are all stored;
it ends with the same record, of which every item is on chain unless some window failed.
-/

namespace Cadastre

open Site (Kept)

namespace Pipeline

variable {terms : Site.Terms} {pipeline : Pipeline} {state : Site.State} {α : Type}

def Sound (pipeline : Pipeline) : Site.State → Prop :=
  Site.Sound pipeline.cache pipeline.remapper

def Saved (pipeline : Pipeline) (handle : PartitionHandle) : Site.State → Prop :=
  Site.Has pipeline.cache pipeline.remapper handle.partition handle.record

theorem kept_saved (handle : PartitionHandle) : Kept pipeline.Sound (pipeline.Saved handle) :=
  Site.kept_has _ _ _ _

theorem kept_sound : Kept pipeline.Sound pipeline.Sound := Site.kept_sound _ _

abbrev Works (terms : Site.Terms) (pipeline : Pipeline) (post : α → Site.State → Prop)
    (work : Work α) (state : Site.State) : Prop :=
  Work.Safe terms pipeline.Sound post (fun _ => pipeline.Sound) work state

section Pass

variable {start : PartitionHandle} {windows : List Window} {dealt : Window → Prop} {pass : Pass}

theorem applyResult_works {pending : Pass.Pending} {result : Except RegistryFault Unit}
    (keeps : pass.Keeps start windows dealt) (cuts : start.record.Cuts windows)
    (member : pending.window ∈ windows) (covered : pending.Covered start.record)
    (saved : pipeline.Saved pass.handle state)
    (written : result = .ok () → pending.append ∈ state.written) :
    Works terms pipeline
      (fun after state => pipeline.Saved after.handle state ∧
        after.Keeps start windows (fun other => other = pending.window ∨ dealt other) ∧
        after.underWay = pass.underWay)
      (pipeline.applyResult pass pending.window result) state := by
  cases result with
  | error fault =>
      exact Work.Safe.pure_of (kept_saved pass.handle) saved fun state saved =>
        ⟨saved, keeps.settle _ cuts.apart member (Or.inl rfl), rfl⟩
  | ok done =>
      obtain ⟨marked, checked, marks⟩ := pass.handle.record.check_markWindow pending.window
      have stored : pass.handle.record.Linked :=
        fun key item held => (saved.placed held).1
      let handle : PartitionHandle := { pass.handle with record := marked }
      have keeps' := (keeps.mark marks).settle .written cuts.apart member
        (Or.inr fun key found => marks.onChain_of_mem stored found)
      simp only [applyResult, checked, pure_bind]
      have keptWritten : Kept pipeline.Sound fun state =>
          pipeline.Saved pass.handle state ∧ pending.append ∈ state.written := by
        refine (kept_saved pass.handle).and ?_
        rintro before _ held ⟨_, _, _, _, rfl⟩
        exact List.mem_cons_of_mem _ held
      refine Work.Safe.bind _ (fun _ => kept_sound) (ProgressCache.writeRecord_safe
        (pipeline.Saved handle) keptWritten (kept_saved handle) (fun _ => kept_sound)
        (fun state held => held.1.sound.booked) ?_ ?_ ⟨saved, written rfl⟩) ?_
      · rintro state book bytes ⟨saved, written⟩ holds holds'
        refine saved.marks marks (fun key found => ⟨pending.append, written,
          keeps.covers covered.covers, ?_⟩) holds holds'
        rw [covered.keys]
        exact found
      · rintro reason state (held | done) _
        · exact held.1.sound
        · exact done.sound
      · intro _ after done
        exact Work.Safe.pure_of (kept_saved handle) done fun state saved => ⟨saved, keeps', rfl⟩

theorem awaitOne_works (cuts : start.record.Cuts windows) (keeps : pass.Keeps start windows dealt)
    (saved : pipeline.Saved pass.handle state) :
    Works terms pipeline
      (fun after state => pipeline.Saved after.handle state ∧ after.Keeps start windows dealt ∧
        after.underWay.length = pass.underWay.length - 1)
      (pipeline.awaitOne pass) state := by
  unfold awaitOne
  split
  · rename_i none
    exact Work.Safe.pure_of (kept_saved pass.handle) saved fun state saved =>
      ⟨saved, keeps, by rw [none]; rfl⟩
  · rename_i first rest waiting
    refine Work.Safe.bind _ (fun _ => kept_sound)
      (awaitAppend_safe (kept_saved pass.handle) saved) ?_
    rintro ⟨place, result⟩ after ⟨saved, written⟩
    have bound : place.val < (first :: rest).length := by simpa using place.isLt
    have there := Pass.get_underWay waiting bound
    rw [Pass.get_append place bound] at written
    have ended := keeps.end there
    obtain ⟨member, covered⟩ := keeps.underWay _ (List.mem_of_getElem? there)
    rw [waiting] at ended
    refine (applyResult_works ended cuts member covered saved written).weaken ?_ fun _ _ => id
    rintro later state ⟨saved, keeps, same⟩
    refine ⟨saved, keeps.rejoin, ?_⟩
    rw [same, waiting, List.length_eraseIdx_of_lt bound]

theorem awaitAll_works (cuts : start.record.Cuts windows) (count : Nat)
    (keeps : pass.Keeps start windows dealt)
    (saved : pipeline.Saved pass.handle state) :
    Works terms pipeline
      (fun after state => pipeline.Saved after.handle state ∧ after.Keeps start windows dealt ∧
        after.underWay.length = pass.underWay.length - count)
      (pipeline.awaitAll pass count) state := by
  induction count generalizing pass state with
  | zero =>
      exact Work.Safe.pure_of (kept_saved pass.handle) saved fun state saved => ⟨saved, keeps, rfl⟩
  | succ count ih =>
      refine Work.Safe.bind _ (fun _ => kept_sound) (awaitOne_works cuts keeps saved) ?_
      rintro next after ⟨saved, keeps, fewer⟩
      refine (ih keeps saved).weaken ?_ fun _ _ => id
      rintro last state ⟨saved, keeps, left⟩
      exact ⟨saved, keeps, by omega⟩

theorem dispatch_works (cuts : start.record.Cuts windows) {registry : RegistryHandle}
    (named : start.record.registryHandle? = some registry)
    (keeps : pass.Keeps start windows dealt) {window : Window} (member : window ∈ windows)
    (saved : pipeline.Saved pass.handle state) :
    Works terms pipeline
      (fun after state => pipeline.Saved after.handle state ∧
        after.Keeps start windows fun other => other = window ∨ dealt other)
      (pipeline.dispatch registry pass window) state := by
  unfold dispatch
  dsimp only
  split
  · rename_i all
    exact Work.Safe.pure_of (kept_saved pass.handle) saved fun state saved => ⟨saved,
      keeps.settle _ cuts.apart member
        (Or.inr fun key found item => Record.onChain_of_allOnChain all found)⟩
  · obtain ⟨entries, ready, covered⟩ := keeps.ready cuts named member
      fun key item held => (saved.placed held).1
    let pending : Pass.Pending := ⟨window, ⟨registry, entries, window.first⟩⟩
    have begun := keeps.begin pending member covered
    simp only [ready]
    refine Work.Safe.bind _ (fun _ => kept_sound) (startAppend_safe (kept_saved pass.handle)
      (kept_saved pass.handle) ?_ saved) fun _ after saved => ?_
    · rintro state ⟨book, ledger, books, page⟩
      exact ⟨book, ledger, books.begins pass.handle.partition
        (page ▸ keeps.covers covered.covers), page⟩
    · split
      · exact (awaitOne_works cuts begun saved).weaken
          (fun _ _ held => ⟨held.1, held.2.1⟩) fun _ _ => id
      · exact Work.Safe.pure_of (kept_saved pass.handle) saved fun state saved => ⟨saved, begun⟩

theorem dispatchAll_works (cuts : start.record.Cuts windows) {registry : RegistryHandle}
    (named : start.record.registryHandle? = some registry) (later : List Window)
    (among : ∀ window ∈ later, window ∈ windows) (keeps : pass.Keeps start windows dealt)
    (saved : pipeline.Saved pass.handle state) :
    Works terms pipeline
      (fun after state => pipeline.Saved after.handle state ∧
        (after.Keeps start windows fun other => other ∈ later ∨ dealt other) ∧
        after.underWay = [])
      (pipeline.dispatchAll registry pass later) state := by
  induction later generalizing dealt pass state with
  | nil =>
      refine (awaitAll_works cuts pass.underWay.length keeps saved).weaken ?_ fun _ _ => id
      rintro after state ⟨saved, keeps, none⟩
      refine ⟨saved, keeps.weaken fun window _ asked => ?_, ?_⟩
      · exact asked.resolve_left (List.not_mem_nil)
      · rw [Nat.sub_self] at none
        exact List.length_eq_zero_iff.mp none
  | cons window rest ih =>
      refine Work.Safe.bind _ (fun _ => kept_sound)
        (dispatch_works cuts named keeps (among window List.mem_cons_self) saved) ?_
      rintro next after ⟨saved, keeps⟩
      refine (ih (fun other found => among other (List.mem_cons_of_mem _ found)) keeps
        saved).weaken ?_ fun _ _ => id
      rintro last state ⟨saved, keeps, none⟩
      exact ⟨saved, keeps.cons, none⟩

end Pass

structure Syncs (before : PartitionHandle) (report : SyncReport) (after : PartitionHandle) :
    Prop where
  place : after.partition = before.partition
  entry : ∀ key,
    (after.record.get? key).map Item.entry = (before.record.get? key).map Item.entry
  complete : (∀ window ∈ report.windows, window.outcome.isFailed = false) →
    ∀ key item, after.record.get? key = some item → item.onChain = true

variable {handle : PartitionHandle}

theorem syncs_of_keeps {windows : List Window} {pass : Pass} {startedAt : Moment}
    (cuts : handle.record.Cuts windows)
    (keeps : pass.Keeps handle windows fun other => other ∈ windows ∨ False)
    (none : pass.underWay = []) :
    Syncs handle ⟨startedAt, windows.map (reportWindow pass.outcomes)⟩ pass.handle := by
  obtain ⟨marked, marks⟩ := keeps.marks
  refine ⟨keeps.place, marks.entry, fun clean key item held => ?_⟩
  have known : key ∈ handle.record.keys := by
    rw [← marks.mem_keys_iff, Record.mem_keys_iff, held]
    rfl
  obtain ⟨window, member, found⟩ := cuts.exists_window known
  rcases keeps.dealt window member (Or.inl member) with ⟨pending, waiting, _⟩ | settled
  · rw [none] at waiting
    cases waiting
  · obtain ⟨outcome, known, failed | chained⟩ := settled
    · have clean := clean _ (List.mem_map_of_mem member)
      simp only [reportWindow, known, Option.getD_some] at clean
      rw [failed] at clean
      cases clean
    · exact chained key found item held

theorem syncRegistry_works {registry : RegistryHandle}
    (named : handle.record.registryHandle? = some registry)
    (saved : pipeline.Saved handle state) :
    Works terms pipeline
      (fun result state => pipeline.Saved result.2 state ∧ Syncs handle result.1 result.2)
      (pipeline.syncRegistry handle registry) state := by
  refine Work.Safe.bind _ (fun _ => kept_sound) (now_safe (kept_saved handle) saved) ?_
  intro startedAt after saved
  have cuts := handle.record.cuts_ofKeys (max pipeline.windowSize 1)
  refine Work.Safe.bind _ (fun _ => kept_sound) (dispatchAll_works cuts named _
    (fun _ => id) (Pass.Keeps.initial handle _) saved) ?_
  rintro pass last ⟨saved, keeps, none⟩
  exact Work.Safe.pure_of (kept_saved pass.handle) saved fun state saved =>
    ⟨saved, syncs_of_keeps cuts keeps none⟩

theorem registryDefaults_works {partition : Partition} (saved : pipeline.Saved handle state) :
    Works terms pipeline (fun _ => pipeline.Saved handle)
      (pipeline.registryDefaults partition) state := by
  have failing : ∀ (fault : PipelineFault) (state : Site.State), pipeline.Saved handle state →
      ¬ fault.IsTransition → pipeline.Sound state := fun _ _ saved _ => saved.sound
  refine Work.Safe.bind _ (fun _ => kept_sound)
    (Source.candidates_safe (kept_saved handle) (fun _ => kept_sound) failing saved) ?_
  rintro candidates after ⟨saved, _⟩
  have chosen : ∀ manifest state, pipeline.Saved handle state →
      Works terms pipeline (fun _ => pipeline.Saved handle)
        (Work.check (pipeline.collection.defaults manifest) id) state := fun manifest state saved =>
    Work.Safe.check (fun _ => kept_saved handle) (fun _ => kept_sound)
      (fun _ _ => saved) fun _ _ => saved.sound
  cases candidates with
  | nil => exact chosen none after saved
  | cons first rest =>
      refine Work.Safe.bind (fun _ => pipeline.Saved handle) (fun _ => kept_sound) ?_
        fun manifest => chosen manifest
      rw [map_eq_pure_bind]
      refine Work.Safe.bind _ (fun _ => kept_sound)
        (Source.manifest_safe (kept_saved handle) (fun _ => kept_sound) failing saved) ?_
      rintro manifest last ⟨saved, _⟩
      exact Work.Safe.pure (kept_saved handle) saved

theorem createRegistry_works (unnamed : handle.record.program = none)
    (saved : pipeline.Saved handle state) :
    Works terms pipeline
      (fun result state => pipeline.Saved result.2 state ∧
        result.2.record.registryHandle? = some result.1 ∧
        result.2.partition = handle.partition ∧ result.2.record.items = handle.record.items)
      (pipeline.createRegistry handle) state := by
  refine Work.Safe.bind _ (fun _ => kept_sound) (registryDefaults_works saved) ?_
  intro defaults after saved
  have keptSpare := fun registry : RegistryHandle => Site.kept_hasSpare pipeline.cache
    pipeline.remapper handle.partition handle.record ⟨registry.uniqueId, registry.locator⟩
  refine Work.Safe.bind _ (fun _ => kept_sound) (register_safe (kept_saved handle) keptSpare
    (fun _ => kept_sound) ?_ ?_ saved) ?_
  · rintro state stamp registry ledger ⟨book, before, books, page⟩ done
    have opens := Ledger.opens_of_registerIn books.opened done
    exact ⟨book, ledger, books.opens opens, page, books.spares opens⟩
  · rintro fault state (saved | ⟨registry, spare⟩)
    · exact saved.sound
    · exact spare.has.sound
  · intro registry last spare
    let program : Program := ⟨registry.uniqueId, registry.locator⟩
    let named : PartitionHandle :=
      { handle with record := { handle.record with program := some program } }
    refine Work.Safe.bind _ (fun _ => kept_sound) (ProgressCache.writeRecord_safe
      (pipeline.Saved named) (keptSpare registry) (kept_saved named)
      (fun _ => kept_sound) (fun state spare => spare.has.sound.booked)
      (fun state book bytes spare => spare.takes unnamed) ?_ spare) ?_
    · rintro reason state (spare | saved) _
      · exact spare.has.sound
      · exact saved.sound
    · intro _ final saved
      exact Work.Safe.pure_of (kept_saved named) saved fun state saved => ⟨saved, rfl, rfl, rfl⟩

theorem syncHandle_works (saved : pipeline.Saved handle state) :
    Works terms pipeline
      (fun result state => pipeline.Saved result.2 state ∧ Syncs handle result.1 result.2)
      (pipeline.syncHandle handle) state := by
  unfold syncHandle
  split
  · rename_i empty
    refine Work.Safe.bind (fun report state => pipeline.Saved handle state ∧
      report.windows = []) (fun _ => kept_sound) ?_ ?_
    · refine Work.Safe.bind _ (fun _ => kept_sound) (now_safe (kept_saved handle) saved) ?_
      intro startedAt after saved
      exact Work.Safe.pure_of (kept_saved handle) saved fun state saved => ⟨saved, rfl⟩
    · rintro report after ⟨saved, _⟩
      refine Work.Safe.pure_of (kept_saved handle) saved fun state saved =>
        ⟨saved, rfl, fun _ => rfl, fun _ key item held => ?_⟩
      change handle.record.items[key]? = some item at held
      rw [Std.ExtTreeMap.isEmpty_iff.mp empty] at held
      simp at held
  · split
    · rename_i registry named
      exact syncRegistry_works named saved
    · rename_i unnamed
      have unnamed : handle.record.program = none := Option.map_eq_none_iff.mp unnamed
      refine Work.Safe.bind _ (fun _ => kept_sound) (createRegistry_works unnamed saved) ?_
      rintro ⟨registry, named⟩ after ⟨saved, known, place, items⟩
      refine (syncRegistry_works known saved).weaken ?_ fun _ _ => id
      rintro ⟨report, last⟩ state ⟨saved, syncs⟩
      refine ⟨saved, syncs.place.trans place, fun key => ?_, syncs.complete⟩
      rw [syncs.entry, Record.get?, items]
      rfl

end Pipeline

end Cadastre
