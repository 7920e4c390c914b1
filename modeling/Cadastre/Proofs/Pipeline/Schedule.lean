import Cadastre.Proofs.Pipeline.Alignment
import Cadastre.Proofs.Pipeline.Fates
import Cadastre.Proofs.Pipeline.Stage
import Cadastre.Proofs.Pipeline.Traffic
import Mathlib.Data.List.InsertIdx

/-!
What a pass over the windows comes to. Every window takes the outcome that it was fated to have,
so that it makes no difference which of the writes under way ends first.
-/

namespace Cadastre

theorem max_one_pos (number : UInt64) : 0 < max number 1 := by
  change 0 < if number ≤ 1 then 1 else number
  split
  · decide
  · rename_i more
    exact UInt64.lt_trans (by decide) (UInt64.not_le.mp more)

theorem mem_eraseIdx_iff {α : Type} {items : List α} (distinct : items.Nodup) {place : Nat}
    {item other : α} (there : items[place]? = some item) :
    other ∈ items.eraseIdx place ↔ other ∈ items ∧ other ≠ item := by
  rw [List.mem_eraseIdx_iff_getElem?]
  constructor
  · rintro ⟨index, different, found⟩
    refine ⟨List.mem_of_getElem? found, ?_⟩
    rintro rfl
    exact different ((List.getElem?_inj (List.getElem?_eq_some_iff.mp found).1 distinct).mp
      (found.trans there.symm))
  · rintro ⟨member, different⟩
    obtain ⟨index, found⟩ := List.getElem?_of_mem member
    refine ⟨index, ?_, found⟩
    rintro rfl
    rw [there] at found
    exact different (Option.some.inj found).symm

namespace Record

/-- The cut of a record's items into windows: each item is in one, they ascend, each window is
aligned, and no two neighbours would be if they were one. -/
structure TiledBy (record : Record) (size : UInt64) (windows : List Window) : Prop where
  mem_iff : ∀ key, (∃ window ∈ windows, key ∈ window) ↔ (record.get? key).isSome = true
  ascending : windows.flatten.Pairwise (· < ·)
  aligned : ∀ window ∈ windows, window.Aligned size
  maximal : windows.IsChain fun one next => ¬ Window.Aligned size (one ++ next)

theorem keys_ascending (record : Record) : record.keys.Pairwise (· < ·) := by
  have ordered : record.keys.Pairwise fun one other => compare one other = .lt :=
    Std.ExtTreeMap.ordered_keys
  exact ordered.imp fun below => compareOfLessAndEq_eq_lt.mp below

theorem tiledBy_ofKeys (record : Record) {size : UInt64} (positive : 0 < size) :
    record.TiledBy size (Window.ofKeys size record.keys) := by
  have tiles := (Window.tiles_iff positive record.keys_ascending).mpr rfl
  refine ⟨fun key => ?_, ?_, tiles.aligned, tiles.maximal⟩
  · rw [← record.mem_keys_iff, ← List.mem_flatten, tiles.whole]
  · rw [tiles.whole]
    exact record.keys_ascending

end Record

namespace Pass

def waiting (pass : Pass) : List Window := pass.underWay.map Pending.window

/-- How a pass stands once the windows of `dealt` were dealt with. -/
structure Follows (start : PartitionHandle) (registry : RegistryHandle)
    (verdict : AppendCall → Except RegistryFault Unit) (dealt : List Window) (pass : Pass)
    (traffic : Site.Traffic) : Prop where
  place : pass.handle.partition = start.partition
  marks : ∃ written : List Window,
    (∀ window, window ∈ written ↔ window ∈ dealt ∧ window ∉ pass.waiting ∧
      start.record.fate registry verdict window = .written) ∧
    Record.MarksTo written.flatten start.record pass.handle.record
  begun : traffic.begun = (dealt.filter fun window =>
    (start.record.fate registry verdict window).isTried).map (start.record.appendFor registry)
  outstanding : traffic.outstanding = pass.underWay.map Pending.append
  distinct : pass.waiting.Nodup
  underWay : ∀ pending ∈ pass.underWay, pending.window ∈ dealt ∧
    (start.record.fate registry verdict pending.window).isTried = true ∧
    pending.append = start.record.appendFor registry pending.window
  outcomes : ∀ window ∈ dealt, window ∉ pass.waiting →
    pass.outcomes[window.first]? = some (start.record.fate registry verdict window)

variable {start : PartitionHandle} {registry : RegistryHandle}
  {verdict : AppendCall → Except RegistryFault Unit} {dealt : List Window} {window : Window}
  {pass : Pass} {traffic : Site.Traffic}

theorem Follows.initial (start : PartitionHandle) (registry : RegistryHandle)
    (verdict : AppendCall → Except RegistryFault Unit) :
    Follows start registry verdict [] { handle := start } {} where
  place := rfl
  marks := ⟨[], by simp, .refl _⟩
  begun := rfl
  outstanding := rfl
  distinct := List.nodup_nil
  underWay := nofun
  outcomes := nofun

theorem Follows.settle (follows : pass.Follows start registry verdict dealt traffic)
    (apart : ∀ other ∈ dealt, other.first ≠ window.first)
    (untried : (start.record.fate registry verdict window).isTried = false) :
    (pass.settle window (start.record.fate registry verdict window)).Follows start registry verdict
      (dealt ++ [window]) traffic where
  place := follows.place
  marks := by
    obtain ⟨written, mem, marks⟩ := follows.marks
    refine ⟨written, fun other => ?_, marks⟩
    rw [mem, List.mem_append, List.mem_singleton]
    constructor
    · rintro ⟨member, ended⟩
      exact ⟨Or.inl member, ended⟩
    · rintro ⟨member | rfl, ended⟩
      · exact ⟨member, ended⟩
      · rw [ended.2] at untried
        cases untried
  begun := by
    rw [follows.begun, List.filter_append]
    simp [untried]
  outstanding := follows.outstanding
  distinct := follows.distinct
  underWay pending found := by
    obtain ⟨member, rest⟩ := follows.underWay pending found
    exact ⟨List.mem_append_left _ member, rest⟩
  outcomes other member ended := by
    rw [outcomes_settle]
    rcases List.mem_append.mp member with earlier | last
    · rw [if_neg fun same => apart other earlier same.symm]
      exact follows.outcomes other earlier ended
    · rw [List.mem_singleton.mp last, if_pos rfl]

theorem Follows.begin (follows : pass.Follows start registry verdict dealt traffic)
    (fresh : window ∉ dealt)
    (tried : (start.record.fate registry verdict window).isTried = true) :
    ({ pass with underWay := pass.underWay ++
        [⟨window, start.record.appendFor registry window⟩] } : Pass).Follows start registry verdict
      (dealt ++ [window]) (traffic.begin (start.record.appendFor registry window)) := by
  have waiting : ({ pass with underWay := pass.underWay ++
      [⟨window, start.record.appendFor registry window⟩] } : Pass).waiting
        = pass.waiting ++ [window] := by
    simp [Pass.waiting]
  have idle : window ∉ pass.waiting := by
    intro member
    obtain ⟨pending, found, rfl⟩ := List.mem_map.mp member
    exact fresh (follows.underWay pending found).1
  constructor
  · exact follows.place
  · obtain ⟨written, mem, marks⟩ := follows.marks
    refine ⟨written, fun other => ?_, marks⟩
    rw [mem, waiting, List.mem_append, List.mem_append, List.mem_singleton]
    constructor
    · rintro ⟨member, ended, fate⟩
      refine ⟨Or.inl member, ?_, fate⟩
      rintro (found | rfl)
      · exact ended found
      · exact fresh member
    · rintro ⟨member, ended, fate⟩
      obtain ⟨going, different⟩ := not_or.mp ended
      exact ⟨member.resolve_right different, going, fate⟩
  · rw [Site.Traffic.begin, follows.begun, List.filter_append]
    simp [tried]
  · rw [Site.Traffic.begin, follows.outstanding]
    simp
  · rw [waiting]
    exact List.nodup_append.mpr ⟨follows.distinct, List.nodup_singleton _, by
      rintro one member other found rfl
      rw [List.mem_singleton] at found
      exact idle (found ▸ member)⟩
  · intro pending found
    rcases List.mem_append.mp found with earlier | last
    · obtain ⟨member, rest⟩ := follows.underWay pending earlier
      exact ⟨List.mem_append_left _ member, rest⟩
    · rw [List.mem_singleton.mp last]
      exact ⟨List.mem_append_right _ List.mem_cons_self, tried, rfl⟩
  · intro other member ended
    rw [waiting, List.mem_append, List.mem_singleton, not_or] at ended
    have earlier : other ∈ dealt := (List.mem_append.mp member).resolve_right fun last =>
      ended.2 (List.mem_singleton.mp last)
    exact follows.outcomes other earlier ended.1

theorem Follows.end (follows : pass.Follows start registry verdict dealt traffic)
    (apart : ∀ one ∈ dealt, ∀ two ∈ dealt, one.first = two.first → one = two) {place : Nat}
    {pending : Pending} (there : pass.underWay[place]? = some pending) {marked : Record}
    (marks : Record.MarksTo
      (if start.record.fate registry verdict pending.window = .written then pending.window else [])
      pass.handle.record marked) :
    (({ pass with
        handle := { pass.handle with record := marked }
        underWay := pass.underWay.eraseIdx place } : Pass).settle pending.window
          (start.record.fate registry verdict pending.window)).Follows start registry verdict dealt
      { traffic with outstanding := traffic.outstanding.eraseIdx place } := by
  obtain ⟨known, tried, _⟩ := follows.underWay pending (List.mem_of_getElem? there)
  have stood : pass.waiting[place]? = some pending.window := by
    rw [waiting, List.getElem?_map, there, Option.map_some]
  have left : ∀ other, other ∈ (pass.underWay.eraseIdx place).map Pending.window ↔
      other ∈ pass.waiting ∧ other ≠ pending.window := by
    intro other
    rw [← List.eraseIdx_map]
    exact mem_eraseIdx_iff follows.distinct stood
  constructor
  · exact follows.place
  · obtain ⟨written, mem, before⟩ := follows.marks
    by_cases fate : start.record.fate registry verdict pending.window = .written
    · rw [if_pos fate] at marks
      refine ⟨written ++ [pending.window], fun other => ?_, ?_⟩
      · change _ ↔ other ∈ dealt ∧ other ∉ (pass.underWay.eraseIdx place).map Pending.window ∧ _
        rw [List.mem_append, List.mem_singleton, mem, left]
        by_cases same : other = pending.window
        · simp [same, known, fate]
        · simp [same]
      · rw [List.flatten_append, List.flatten_singleton]
        exact before.trans marks
    · rw [if_neg fate] at marks
      have joined := before.trans marks
      rw [List.append_nil] at joined
      refine ⟨written, fun other => ?_, joined⟩
      change _ ↔ other ∈ dealt ∧ other ∉ (pass.underWay.eraseIdx place).map Pending.window ∧ _
      rw [mem, left]
      by_cases same : other = pending.window
      · simp [same, fate]
      · simp [same]
  · exact follows.begun
  · rw [follows.outstanding]
    exact List.eraseIdx_map _ _ _
  · change ((pass.underWay.eraseIdx place).map Pending.window).Nodup
    rw [← List.eraseIdx_map]
    exact follows.distinct.eraseIdx place
  · intro other found
    exact follows.underWay other (List.mem_of_mem_eraseIdx found)
  · intro other member ended
    rw [outcomes_settle]
    by_cases same : other = pending.window
    · rw [same, if_pos rfl]
    · rw [if_neg fun equal => same (apart other member _ known equal.symm)]
      refine follows.outcomes other member fun found => ended ?_
      exact (left other).mpr ⟨found, same⟩

end Pass

namespace Pipeline

def room (pipeline : Pipeline) : Nat := (max pipeline.concurrency 1).toNat

def windowsOf (pipeline : Pipeline) (record : Record) : List Window :=
  Window.ofKeys (max pipeline.windowSize 1) record.keys

/-- The work ends, with never more writes under way than may be. -/
def Finishes {α : Type} (pipeline : Pipeline) (verdict : AppendCall → Except RegistryFault Unit)
    (clock : Moment) (post : α → Site.Traffic → Prop) (work : Work α) (traffic : Site.Traffic) :
    Prop :=
  Work.Ends ⟨pipeline.cache, verdict, clock⟩
    (fun traffic => traffic.outstanding.length ≤ pipeline.room) post work traffic

section

variable {pipeline : Pipeline} {start : PartitionHandle} {registry : RegistryHandle}
  {verdict : AppendCall → Except RegistryFault Unit} {clock : Moment}
  {dealt later : List Window} {window : Window} {pass : Pass} {traffic : Site.Traffic}

theorem room_pos (pipeline : Pipeline) : 0 < pipeline.room :=
  UInt64.lt_iff_toNat_lt.mp (max_one_pos pipeline.concurrency)

theorem applyResult_finishes (follows : pass.Follows start registry verdict dealt traffic)
    (apart : ∀ one ∈ dealt, ∀ two ∈ dealt, one.first = two.first → one = two) {place : Nat}
    {ended : Pass.Pending} (there : pass.underWay[place]? = some ended)
    {result : Except RegistryFault Unit} (answered : result = verdict ended.append)
    (inside : (traffic.outstanding.eraseIdx place).length ≤ pipeline.room) :
    pipeline.Finishes verdict clock
      (fun after traffic => after.Follows start registry verdict dealt traffic ∧
        after.underWay = pass.underWay.eraseIdx place)
      (pipeline.applyResult { pass with underWay := pass.underWay.eraseIdx place } ended.window
        result)
      { traffic with outstanding := traffic.outstanding.eraseIdx place } := by
  obtain ⟨_, tried, append⟩ := follows.underWay ended (List.mem_of_getElem? there)
  have told := Record.fate_of_tried tried
  rw [← append, ← answered] at told
  cases result with
  | error fault =>
      have fate : start.record.fate registry verdict ended.window = .failed fault.message := told
      have marks : Record.MarksTo
          (if start.record.fate registry verdict ended.window = .written then ended.window else [])
          pass.handle.record pass.handle.record := by
        rw [fate, if_neg nofun]
        exact .refl _
      have settled := follows.end apart there marks
      rw [fate] at settled
      exact Work.Ends.pure inside ⟨settled, rfl⟩
  | ok =>
      have fate : start.record.fate registry verdict ended.window = .written := told
      obtain ⟨marked, done, marks⟩ := Record.marksTo_markWindow pass.handle.record ended.window
      have marks' : Record.MarksTo
          (if start.record.fate registry verdict ended.window = .written then ended.window else [])
          pass.handle.record marked := by
        rw [fate, if_pos rfl]
        exact marks
      have settled := follows.end apart there marks'
      rw [fate] at settled
      have checked : Work.check (pass.handle.record.markWindow ended.window) PipelineFault.core
          = pure marked := by
        rw [done]
        rfl
      simp only [applyResult, checked, pure_bind]
      refine Work.Ends.bind (Work.writeRecord_ends inside _ marked) ?_
      rintro _ _ _ rfl
      exact Work.Ends.pure inside ⟨settled, rfl⟩

theorem awaitOne_finishes (follows : pass.Follows start registry verdict dealt traffic)
    (apart : ∀ one ∈ dealt, ∀ two ∈ dealt, one.first = two.first → one = two)
    (inside : traffic.outstanding.length ≤ pipeline.room) :
    pipeline.Finishes verdict clock
      (fun after traffic => after.Follows start registry verdict dealt traffic ∧
        after.underWay.length = pass.underWay.length - 1)
      (pipeline.awaitOne pass) traffic := by
  unfold awaitOne
  split
  · rename_i none
    exact Work.Ends.pure inside ⟨follows, by rw [none]; rfl⟩
  · rename_i first rest waiting
    have outstanding : traffic.outstanding = first.append :: rest.map Pass.Pending.append := by
      rw [follows.outstanding, waiting, List.map_cons]
    refine Work.Ends.bind (Work.awaitAppend_ends inside outstanding fun place => ?_) ?_
    · rw [outstanding] at inside
      exact (List.length_eraseIdx_le _ _).trans inside
    rintro ⟨place, result⟩ _ inside' ⟨answered, rfl⟩
    have bound : place.val < (first :: rest).length := by simpa using place.isLt
    have there := Pass.get_underWay waiting bound
    dsimp only at answered
    rw [Pass.get_append place bound] at answered
    have last : pipeline.Finishes verdict clock _ _ _ :=
      applyResult_finishes follows apart there answered (by rw [outstanding]; exact inside')
    rw [waiting, outstanding] at last
    refine last.weaken ?_
    rintro after traffic' _ ⟨settled, left⟩
    refine ⟨settled, ?_⟩
    rw [left, waiting, List.length_eraseIdx_of_lt bound]

theorem awaitAll_finishes (count : Nat)
    (follows : pass.Follows start registry verdict dealt traffic)
    (apart : ∀ one ∈ dealt, ∀ two ∈ dealt, one.first = two.first → one = two)
    (inside : traffic.outstanding.length ≤ pipeline.room) :
    pipeline.Finishes verdict clock
      (fun after traffic => after.Follows start registry verdict dealt traffic ∧
        after.underWay.length = pass.underWay.length - count)
      (pipeline.awaitAll pass count) traffic := by
  induction count generalizing pass traffic with
  | zero => exact Work.Ends.pure inside ⟨follows, rfl⟩
  | succ count ih =>
      refine Work.Ends.bind (awaitOne_finishes follows apart inside) ?_
      rintro next after inside ⟨follows, fewer⟩
      refine (ih follows inside).weaken ?_
      rintro last traffic _ ⟨follows, left⟩
      exact ⟨follows, by omega⟩

theorem dispatch_finishes (cuts : start.record.Cuts (dealt ++ window :: later))
    (follows : pass.Follows start registry verdict dealt traffic)
    (vacant : pass.underWay.length < pipeline.room) :
    pipeline.Finishes verdict clock
      (fun after traffic => after.Follows start registry verdict (dealt ++ [window]) traffic ∧
        after.underWay.length < pipeline.room)
      (pipeline.dispatch registry pass window) traffic := by
  have listed : window ∈ dealt ++ window :: later := by simp
  have filled := (cuts.sound window listed).1
  have fresh : window ∉ dealt := fun member =>
    cuts.fresh _ (Window.first_mem filled) window member (Window.first_mem filled)
  have inside : traffic.outstanding.length ≤ pipeline.room := by
    rw [follows.outstanding, List.length_map]
    exact vacant.le
  have apart : ∀ other ∈ dealt, other.first ≠ window.first := by
    intro other member same
    have equal := cuts.apart other (List.mem_append_left _ member) window listed same
    exact fresh (equal ▸ member)
  -- No item of the window has been marked since the pass began.
  have same : ∀ key ∈ window, pass.handle.record.get? key = start.record.get? key := by
    obtain ⟨written, mem, marks⟩ := follows.marks
    intro key member
    apply marks.get?_of_not_mem
    intro found
    obtain ⟨other, marked, within⟩ := List.mem_flatten.mp found
    exact cuts.fresh key member other ((mem other).mp marked).1 within
  unfold dispatch
  simp only [Record.allOnChain_congr same, Record.entries?_congr same]
  split
  · rename_i all
    have fate : start.record.fate registry verdict window = .skipped := if_pos all
    have settled := follows.settle apart (by rw [fate]; rfl)
    rw [fate] at settled
    exact Work.Ends.pure inside ⟨settled, vacant⟩
  · rename_i unfinished
    have fate : start.record.fate registry verdict window
        = if window.any fun key => start.record.stateOf? key = some .pending then .notReady
          else .ofVerdict (verdict (start.record.appendFor registry window)) := if_neg unfinished
    split at fate
    · rename_i unready
      obtain ⟨key, member, pending⟩ := List.any_eq_true.mp unready
      have settled := follows.settle apart (by rw [fate]; rfl)
      rw [fate] at settled
      simp only [Record.entries?_eq_none member (of_decide_eq_true pending)]
      exact Work.Ends.pure inside ⟨settled, vacant⟩
    · rename_i stored
      have tried : (start.record.fate registry verdict window).isTried = true := by
        rw [fate]
        exact WindowOutcome.isTried_ofVerdict _
      have ready := Record.entries?_eq_some (fun key member => cuts.mem_keys listed member)
        fun key member pending =>
          stored (List.any_eq_true.mpr ⟨key, member, decide_eq_true pending⟩)
      have begun := follows.begin fresh tried
      have more : (traffic.begin (start.record.appendFor registry window)).outstanding.length
          ≤ pipeline.room := by
        rw [begun.outstanding]
        simpa using Nat.succ_le_of_lt vacant
      simp only [ready]
      refine Work.Ends.bind (Work.startAppend_ends inside more) ?_
      rintro _ _ _ rfl
      split
      · have among : ∀ other ∈ dealt ++ [window], other ∈ dealt ++ window :: later := by
          intro other member
          rcases List.mem_append.mp member with earlier | last
          · exact List.mem_append_left _ earlier
          · rw [List.mem_singleton.mp last]
            exact listed
        refine (awaitOne_finishes begun (fun one member two member' =>
          cuts.apart one (among one member) two (among two member')) more).weaken ?_
        rintro after traffic _ ⟨follows, fewer⟩
        refine ⟨follows, ?_⟩
        rw [fewer]
        simpa using vacant
      · rename_i less
        exact Work.Ends.pure more ⟨begun, not_le.mp less⟩

theorem dispatchAll_finishes (cuts : start.record.Cuts (dealt ++ later))
    (follows : pass.Follows start registry verdict dealt traffic)
    (vacant : pass.underWay.length < pipeline.room) :
    pipeline.Finishes verdict clock
      (fun after traffic => after.Follows start registry verdict (dealt ++ later) traffic ∧
        after.underWay = [])
      (pipeline.dispatchAll registry pass later) traffic := by
  induction later generalizing dealt pass traffic with
  | nil =>
      rw [List.append_nil] at cuts ⊢
      have inside : traffic.outstanding.length ≤ pipeline.room := by
        rw [follows.outstanding, List.length_map]
        exact vacant.le
      refine (awaitAll_finishes _ follows cuts.apart inside).weaken ?_
      rintro after traffic _ ⟨follows, left⟩
      rw [Nat.sub_self] at left
      exact ⟨follows, List.length_eq_zero_iff.mp left⟩
  | cons window rest ih =>
      refine Work.Ends.bind (dispatch_finishes cuts follows vacant) ?_
      rintro next after _ ⟨follows, vacant⟩
      rw [← List.singleton_append, ← List.append_assoc] at cuts ⊢
      exact ih cuts follows vacant

end

section

variable (pipeline : Pipeline) (record : Record) (registry : RegistryHandle)
  (verdict : AppendCall → Except RegistryFault Unit)

def settledReport (clock : Moment) : SyncReport :=
  ⟨clock, (pipeline.windowsOf record).map fun window =>
    ⟨window.first, window.last, window.length, record.fate registry verdict window⟩⟩

def settledRecord : Record :=
  record.chain ((pipeline.windowsOf record).filter fun window =>
    record.fate registry verdict window = .written).flatten

def triedWrites : List AppendCall :=
  ((pipeline.windowsOf record).filter fun window =>
    (record.fate registry verdict window).isTried).map (record.appendFor registry)

end

theorem cuts_windowsOf (pipeline : Pipeline) (record : Record) :
    record.Cuts (pipeline.windowsOf record) :=
  record.cuts_ofKeys (max pipeline.windowSize 1)

theorem windowsOf_ascending (pipeline : Pipeline) (record : Record) :
    (pipeline.windowsOf record).Pairwise fun one other => one.last < other.first := by
  have cuts := pipeline.cuts_windowsOf record
  have ascending : (pipeline.windowsOf record).flatten.Pairwise (· < ·) := by
    rw [cuts.whole]
    exact record.keys_ascending
  refine (List.pairwise_flatten.mp ascending).2.imp_of_mem ?_
  intro one other member member' below
  exact below _ (Window.last_mem (cuts.sound one member).1) _
    (Window.first_mem (cuts.sound other member').1)

/-- What a pass leaves is told by the items and the verdicts alone: whichever of the writes that are
under way ends first, the report, the record and the writes come out the same. They are about the
aligned windows of the items. -/
theorem syncRegistry_ignores_schedule (pipeline : Pipeline) (handle : PartitionHandle)
    (registry : RegistryHandle) (verdict : AppendCall → Except RegistryFault Unit)
    (clock : Moment) :
    pipeline.Finishes verdict clock
      (fun result traffic =>
        result.1 = pipeline.settledReport handle.record registry verdict clock ∧
        result.2 = ⟨handle.partition, pipeline.settledRecord handle.record registry verdict⟩ ∧
        traffic = ⟨pipeline.triedWrites handle.record registry verdict, []⟩)
      (pipeline.syncRegistry handle registry) {} ∧
    handle.record.TiledBy (max pipeline.windowSize 1) (pipeline.windowsOf handle.record) ∧
    handle.record.Cuts (pipeline.windowsOf handle.record) ∧
    (pipeline.windowsOf handle.record).Pairwise fun one other => one.last < other.first := by
  have cuts := pipeline.cuts_windowsOf handle.record
  refine ⟨?_, handle.record.tiledBy_ofKeys (max_one_pos _), cuts,
    pipeline.windowsOf_ascending handle.record⟩
  refine Work.Ends.bind (Work.now_ends (Nat.zero_le _)) ?_
  rintro _ _ _ ⟨rfl, rfl⟩
  rw [← List.nil_append (pipeline.windowsOf handle.record)] at cuts
  refine Work.Ends.bind (dispatchAll_finishes cuts
    (Pass.Follows.initial handle registry verdict) pipeline.room_pos) ?_
  rintro ⟨last, outcomes, underWay⟩ traffic inside ⟨follows, ended⟩
  obtain rfl : underWay = [] := ended
  refine Work.Ends.pure inside ⟨?_, ?_, ?_⟩
  · rw [settledReport, SyncReport.mk.injEq]
    refine ⟨rfl, List.map_congr_left fun window member => ?_⟩
    have outcome := follows.outcomes window member List.not_mem_nil
    rw [reportWindow, outcome, Option.getD_some]
  · obtain ⟨written, mem, marks⟩ := follows.marks
    have marks' : Record.MarksTo ((pipeline.windowsOf handle.record).filter fun window =>
        handle.record.fate registry verdict window = .written).flatten handle.record
          last.record := by
      refine marks.congr fun key => ?_
      simp [mem, Pass.waiting, windowsOf]
    rw [settledRecord, ← marks'.eq_chain, ← follows.place]
  · obtain ⟨begun, outstanding⟩ := traffic
    exact congrArg₂ Site.Traffic.mk follows.begun follows.outstanding

/-! A pass over two windows of one item each, with room for both writes at once. -/

def singly : Pipeline := { Site.Stage.pipeline with windowSize := 1, concurrency := 2 }

def twoStored : PartitionHandle :=
  ⟨⟨0, 0⟩, (Record.empty.put 0 ⟨"l0", "Land #0", false⟩).put 1 ⟨"l1", "Land #1", false⟩⟩

def firstRefused : Site.Manner where
  cache := singly.cache
  verdict append := if append.first = 0 then .error (.rejected "full") else .ok ()
  clock := { seconds := 0 }

def syncedAs (pick : (count : Nat) → Fin (count + 1)) :
    Except PipelineFault (SyncReport × PartitionHandle) × Site.Traffic :=
  (singly.syncRegistry twoStored ⟨"0a", "registry-0a"⟩).run.follow (S := Site)
    (firstRefused.answer pick) {}

theorem syncedAs_of_finishes {post : SyncReport × PartitionHandle → Site.Traffic → Prop}
    (finishes : singly.Finishes firstRefused.verdict firstRefused.clock post
      (singly.syncRegistry twoStored ⟨"0a", "registry-0a"⟩) {})
    (pick : (count : Nat) → Fin (count + 1)) :
    ∃ result traffic, syncedAs pick = (.ok result, traffic) ∧ post result traffic := by
  obtain ⟨_, result, told, held⟩ := finishes.followed (firstRefused.answers_answer pick)
  exact ⟨result, _, Prod.ext told rfl, held⟩

/-- The write of the first window is refused. Whether it is the first or the last of the two to
end, the second window is written. -/
theorem second_window_written : ∃ report record traffic,
    syncedAs (fun _ => 0) = (.ok (report, ⟨⟨0, 0⟩, record⟩), traffic) ∧
    syncedAs Fin.last = (.ok (report, ⟨⟨0, 0⟩, record⟩), traffic) ∧
    report.windows = [⟨0, 0, 1, .failed "registry rejected the request: full"⟩,
      ⟨1, 1, 1, .written⟩] ∧
    record = (Record.empty.put 0 ⟨"l0", "Land #0", false⟩).put 1 ⟨"l1", "Land #1", true⟩ ∧
    traffic = ⟨[⟨⟨"0a", "registry-0a"⟩, [⟨"Land #0", "l0"⟩], 0⟩,
      ⟨⟨"0a", "registry-0a"⟩, [⟨"Land #1", "l1"⟩], 1⟩], []⟩ := by
  obtain ⟨finishes, _⟩ := syncRegistry_ignores_schedule singly twoStored ⟨"0a", "registry-0a"⟩
    firstRefused.verdict firstRefused.clock
  obtain ⟨⟨report, handle⟩, traffic, first, rfl, rfl, rfl⟩ :=
    syncedAs_of_finishes finishes fun _ => 0
  obtain ⟨⟨report, handle⟩, traffic, last, rfl, rfl, rfl⟩ :=
    syncedAs_of_finishes finishes Fin.last
  refine ⟨_, _, _, first, last, ?_, ?_, ?_⟩
  · decide +kernel
  · decide +kernel
  · refine congrArg (Site.Traffic.mk · []) ?_
    decide +kernel

end Pipeline

end Cadastre
