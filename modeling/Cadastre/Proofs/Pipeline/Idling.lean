import Cadastre.Proofs.Pipeline.Regrouping
import Cadastre.Proofs.Pipeline.Upholding

/-!
Commands that find nothing to do. Such a run looks at the cache file, at the listing of the
directory and at the clock. It asks for nothing else, so nothing changes.
-/

namespace Cadastre

namespace Site

/-- How looks are answered, in a directory with this listing and where a look may fail or not. No
other call has an answer here. -/
def Glances (entries : List DirectoryEntry) (lossy : Prop) :
    (request : Call) → Diary → Answer request → Diary → Prop
  | .readCache, before, (reply : Except String (Option Bytes)), after =>
    after = before ∧ match reply with
      | .ok contents => contents = before.cache
      | .error _ => lossy
  | .listAssets, before, (reply : Except String (List DirectoryEntry)), after =>
    after = before ∧ match reply with
      | .ok found => found = entries
      | .error _ => lossy
  | .now, before, _, after => after = before
  | .replaceCache _, _, _, _ => False
  | .readAsset _, _, _, _ => False
  | .storePairs _, _, _, _ => False
  | .register _ _, _, _, _ => False
  | .startAppend _, _, _, _ => False
  | .awaitAppend _ _, _, _, _ => False

theorem glances_of_answers {assets : Assets} {conditions : Conditions} {request : Call}
    {reply : Answer request} {before after : Diary} (supplies : assets.Supplies conditions)
    (asked : ∃ reply after, Glances assets.entries True request before reply after)
    (answer : conditions.Answers request before reply after) :
    Glances assets.entries True request before reply after := by
  cases request with
  | readCache =>
      obtain ⟨same, read⟩ := answer
      cases reply with
      | ok contents => exact ⟨same, read contents rfl⟩
      | error reason => exact ⟨same, trivial⟩
  | listAssets =>
      obtain ⟨same, listed⟩ := answer
      cases reply with
      | ok found => exact ⟨same, supplies.lists found (listed found rfl)⟩
      | error reason => exact ⟨same, trivial⟩
  | now => exact answer
  | _ =>
      obtain ⟨_, _, none⟩ := asked
      exact none.elim

end Site

/-- Whether a part of a run makes do with looks, changes nothing, and has this to tell unless looks
may fail. -/
def Work.Idle {α : Type} (entries : List DirectoryEntry) (lossy : Prop) (now : Site.Diary)
    (work : Work α) (tells : α → Prop) : Prop :=
  Work.Meets (Site.Glances entries lossy) (fun state => state = now) (fun value _ => tells value)
    (fun _ _ => lossy) work now

namespace Work.Idle

variable {α β : Type} {entries : List DirectoryEntry} {lossy : Prop} {now : Site.Diary}
  {tells : α → Prop}

theorem pure {value : α} (holds : tells value) : Idle entries lossy now (Pure.pure value) tells :=
  Meets.pure rfl holds

theorem bind {first : Work α} {second : α → Work β} {tells : β → Prop} (between : α → Prop)
    (one : Idle entries lossy now first between)
    (next : ∀ value, between value → Idle entries lossy now (second value) tells) :
    Idle entries lossy now (first >>= second) tells := by
  refine Meets.bind (fun value _ => between value) one ?_
  rintro value _ rfl held
  exact next value held

end Work.Idle

namespace ProgressCache

variable {entries : List DirectoryEntry} {lossy : Prop} {now : Site.Diary} {cache : ProgressCache}
  {partition : Partition} {record : Record}

theorem contents_idle : Work.Idle entries lossy now contents (· = now.cache) := by
  have asked : ∃ reply after, Site.Glances entries lossy .readCache now reply after :=
    ⟨.ok now.cache, now, rfl, rfl⟩
  refine Work.Meets.expect ⟨rfl, asked, ?_⟩
  rintro reply after ⟨rfl, read⟩
  cases reply with
  | ok contents => exact ⟨rfl, read⟩
  | error reason => exact ⟨rfl, read⟩

theorem readRecord_idle (tells : cache.Tells now.cache partition record) :
    Work.Idle entries lossy now (cache.readRecord partition) fun found =>
      found.getD {} = record := by
  obtain ⟨found, loaded, page⟩ := tells.loads
  refine Work.Idle.bind _ contents_idle ?_
  rintro _ rfl
  rw [loaded]
  exact Work.Idle.pure page

end ProgressCache

structure Assets.Published (assets : Assets) (remapper : Remapper) (partition : Partition)
    (record : Record) : Prop where
  contains : remapper.layout.contains partition = true
  done : ∃ candidates, Source.inPartition remapper partition
    (Source.pairs assets.dir assets.entries) = .ok candidates ∧ record.pendingPairs candidates = []
  linked : record.Linked
  chained : ∀ key item, record.get? key = some item → item.onChain = true
  registered : record.Registered

namespace Pipeline

variable {entries : List DirectoryEntry} {lossy : Prop} {now : Site.Diary} {pipeline : Pipeline}
  {partition : Partition} {record : Record} {registry : RegistryHandle}

theorem now_idle : Work.Idle entries lossy now (ExceptT.lift Site.now) fun _ => True := by
  have asked : ∃ reply after, Site.Glances entries lossy .now now reply after :=
    ⟨{ seconds := 0 }, now, rfl⟩
  refine Work.Meets.lift ⟨rfl, asked, ?_⟩
  rintro reply after rfl
  exact ⟨rfl, trivial⟩

theorem openPartition_idle (contains : pipeline.remapper.layout.contains partition = true)
    (tells : pipeline.cache.Tells now.cache partition record) :
    Work.Idle entries lossy now (pipeline.openPartition partition) (· = ⟨partition, record⟩) := by
  rw [openPartition, contains]
  refine Work.Idle.bind _ (ProgressCache.readRecord_idle tells) ?_
  rintro found rfl
  exact Work.Idle.pure rfl

theorem candidates_idle {candidates : List FilePair}
    (listed : Source.inPartition pipeline.remapper partition
      (Source.pairs pipeline.assetsDir entries) = .ok candidates) :
    Work.Idle entries lossy now
      (Source.candidates pipeline.assetsDir pipeline.remapper partition) (· = candidates) := by
  refine Work.Idle.bind (· = Source.pairs pipeline.assetsDir entries) ?_ ?_
  · refine Work.Idle.bind (· = entries) ?_ ?_
    · have asked : ∃ reply after, Site.Glances entries lossy .listAssets now reply after :=
        ⟨.ok entries, now, rfl, rfl⟩
      refine Work.Meets.expect ⟨rfl, asked, ?_⟩
      rintro reply after ⟨rfl, found⟩
      cases reply with
      | ok listing => exact ⟨rfl, found⟩
      | error reason => exact ⟨rfl, found⟩
    · rintro _ rfl
      exact Work.Idle.pure rfl
  · rintro _ rfl
    rw [listed]
    exact Work.Idle.pure rfl

theorem groupsOf_nil : pipeline.groupsOf [] = .ok [] := by
  rw [groupsOf]
  split
  · rfl
  · rfl

theorem uploadHandle_idle {candidates : List FilePair}
    (listed : Source.inPartition pipeline.remapper partition
      (Source.pairs pipeline.assetsDir entries) = .ok candidates)
    (none : record.pendingPairs candidates = []) :
    Work.Idle entries lossy now (pipeline.uploadHandle ⟨partition, record⟩)
      (· = (⟨0, 0, 0, false⟩, ⟨partition, record⟩)) := by
  refine Work.Idle.bind (· = ⟨0, []⟩) ?_ ?_
  · refine Work.Idle.bind _ (candidates_idle listed) ?_
    rintro _ rfl
    dsimp only
    rw [none, groupsOf_nil]
    exact Work.Idle.pure rfl
  · rintro _ rfl
    exact Work.Idle.pure rfl

theorem allOnChain_of_chained (linked : record.Linked)
    (chained : ∀ key item, record.get? key = some item → item.onChain = true) {window : Window}
    (known : ∀ key ∈ window, key ∈ record.keys) : record.allOnChain window = true := by
  refine List.all_eq_true.mpr fun key member => ?_
  have present := (Record.mem_keys_iff _ _).mp (known key member)
  obtain ⟨item, held⟩ := Option.isSome_iff_exists.mp present
  have state := (item.state_eq_onChain_iff).mpr ⟨linked key item held, chained key item held⟩
  rw [decide_eq_true_eq, Record.stateOf?, held, Option.map_some, state]

theorem dispatchAll_of_allOnChain (windows : List Window) {pass : Pass}
    (idle : pass.underWay = []) (all : ∀ window ∈ windows, pass.handle.record.allOnChain window) :
    pipeline.dispatchAll registry pass windows
      = Pure.pure (windows.foldl (fun pass window => pass.settle window .skipped) pass) := by
  induction windows generalizing pass with
  | nil =>
      rw [dispatchAll, idle]
      rfl
  | cons window rest ih =>
      have skips : pipeline.dispatch registry pass window
          = Pure.pure (pass.settle window .skipped) := by
        rw [dispatch, if_pos (all window List.mem_cons_self)]
      rw [dispatchAll, skips, pure_bind, List.foldl_cons]
      apply ih
      · exact idle
      · exact fun other member => all other (List.mem_cons_of_mem _ member)

theorem outcomes_foldl_skipped (windows : List Window) (pass : Pass) (window : Window)
    (dealt : window ∈ windows ∨ pass.outcomes[window.first]? = some .skipped) :
    (windows.foldl (fun pass window => pass.settle window .skipped) pass).outcomes[window.first]?
      = some .skipped := by
  induction windows generalizing pass with
  | nil => exact dealt.resolve_left List.not_mem_nil
  | cons first rest ih =>
      rw [List.foldl_cons]
      apply ih
      rw [Pass.outcomes_settle]
      by_cases same : first.first = window.first
      · simp [same]
      · rcases dealt with member | earlier
        · rcases List.mem_cons.mp member with rfl | later
          · exact absurd rfl same
          · exact Or.inl later
        · simp [same, earlier]

theorem emptyReport_idle :
    Work.Idle entries lossy now emptyReport fun report => report.windows = [] := by
  refine Work.Idle.bind _ now_idle ?_
  intro startedAt _
  exact Work.Idle.pure rfl

theorem syncHandle_idle (linked : record.Linked)
    (chained : ∀ key item, record.get? key = some item → item.onChain = true)
    (registered : record.Registered) :
    Work.Idle entries lossy now (pipeline.syncHandle ⟨partition, record⟩) fun result =>
      ∀ window ∈ result.1.windows, window.outcome = .skipped := by
  unfold syncHandle
  dsimp only
  split
  · refine Work.Idle.bind _ emptyReport_idle ?_
    intro report empty
    refine Work.Idle.pure fun window member => ?_
    rw [empty] at member
    cases member
  · rename_i filled
    split
    · rename_i registry _
      refine Work.Idle.bind _ now_idle ?_
      intro startedAt _
      have cuts := record.cuts_ofKeys (max pipeline.windowSize 1)
      dsimp only
      rw [dispatchAll_of_allOnChain _ rfl fun window member =>
        allOnChain_of_chained linked chained fun key found => cuts.mem_keys member found]
      refine Work.Idle.pure fun window member => ?_
      obtain ⟨cut, among, rfl⟩ := List.mem_map.mp member
      simp only [reportWindow, outcomes_foldl_skipped _ _ cut (Or.inl among), Option.getD_some]
    · rename_i unnamed
      exact absurd (Option.map_eq_none_iff.mp unnamed) (registered (by simpa using filled))

section Published

variable {assets : Assets} (published : assets.Published pipeline.remapper partition record)
  (tells : pipeline.cache.Tells now.cache partition record)

include published tells

theorem upload_idle (dir : pipeline.assetsDir = assets.dir) :
    Work.Idle assets.entries lossy now (pipeline.upload partition) (· = ⟨0, 0, 0, false⟩) := by
  obtain ⟨candidates, listed, none⟩ := published.done
  rw [← dir] at listed
  refine Work.Idle.bind _ (openPartition_idle published.contains tells) ?_
  rintro _ rfl
  refine Work.Idle.bind _ (uploadHandle_idle listed none) ?_
  rintro _ rfl
  exact Work.Idle.pure rfl

theorem sync_idle : Work.Idle assets.entries lossy now (pipeline.sync partition) fun report =>
    ∀ window ∈ report.windows, window.outcome = .skipped := by
  refine Work.Idle.bind _ (openPartition_idle published.contains tells) ?_
  rintro _ rfl
  refine Work.Idle.bind _ (syncHandle_idle published.linked published.chained
    published.registered) ?_
  intro result skipped
  exact Work.Idle.pure skipped

theorem publish_idle (dir : pipeline.assetsDir = assets.dir) :
    Work.Idle assets.entries lossy now (pipeline.publish partition) fun report =>
      report.upload = ⟨0, 0, 0, false⟩ ∧
        ∀ window ∈ report.sync.windows, window.outcome = .skipped := by
  obtain ⟨candidates, listed, none⟩ := published.done
  rw [← dir] at listed
  refine Work.Idle.bind _ (openPartition_idle published.contains tells) ?_
  rintro _ rfl
  refine Work.Idle.bind _ (uploadHandle_idle listed none) ?_
  rintro _ rfl
  refine Work.Idle.bind _ (syncHandle_idle published.linked published.chained
    published.registered) ?_
  intro result skipped
  exact Work.Idle.pure ⟨rfl, skipped⟩

theorem Task.work_idle (dir : pipeline.assetsDir = assets.dir) (task : Task) :
    Work.Idle assets.entries lossy now (task.work pipeline partition) fun _ => True := by
  cases task with
  | upload =>
      refine Work.Idle.bind _ (upload_idle published tells dir) ?_
      exact fun _ _ => Work.Idle.pure trivial
  | sync =>
      refine Work.Idle.bind _ (sync_idle published tells) ?_
      exact fun _ _ => Work.Idle.pure trivial
  | publish =>
      refine Work.Idle.bind _ (publish_idle published tells dir) ?_
      exact fun _ _ => Work.Idle.pure trivial

end Published

end Pipeline

end Cadastre
