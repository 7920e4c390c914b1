import Cadastre.Proofs.Pipeline.Fates
import Mathlib.Tactic.TFAE

/-!
Reports that the record bears out. A window that was written or skipped is on chain, and one that
was not ready has an item that is pending, so that the outcomes of all windows tell how far the
partition is.
-/

namespace Cadastre

namespace Record

variable {record marked : Record} {window : Window} {keys : List LocalKey}

theorem MarksTo.keys_eq (marks : MarksTo keys record marked) : marked.keys = record.keys := by
  rw [marks.eq_chain]
  exact Std.ExtTreeMap.keys_map

theorem MarksTo.stateOf? (marks : MarksTo keys record marked) (key : LocalKey) :
    marked.stateOf? key = (record.stateOf? key).map fun state =>
      if key ∈ keys ∧ state = .uploaded then .onChain else state := by
  rw [Record.stateOf?, Record.stateOf?, marks.item, Option.map_map, Option.map_map]
  congr 1
  funext item
  obtain ⟨link, name, flag⟩ := item
  by_cases empty : link = "" <;> cases flag <;> by_cases member : key ∈ keys <;>
    simp [Item.state, empty, member]

theorem mem_keys_of_stateOf? {key : LocalKey} {state : ItemState}
    (held : record.stateOf? key = some state) : key ∈ record.keys := by
  obtain ⟨item, found, _⟩ := Option.map_eq_some_iff.mp held
  rw [mem_keys_iff, found]
  rfl

def Bears (record : Record) (window : Window) : WindowOutcome → Prop
  | .written | .skipped => ∀ key ∈ window, record.stateOf? key = some .onChain
  | .notReady => ∃ key ∈ window, record.stateOf? key = some .pending
  | .failed _ => True

theorem Bears.marks {outcome : WindowOutcome} (bears : record.Bears window outcome)
    (marks : MarksTo keys record marked) : marked.Bears window outcome := by
  have chained : (∀ key ∈ window, record.stateOf? key = some .onChain) →
      ∀ key ∈ window, marked.stateOf? key = some .onChain := by
    intro all key member
    simp [marks.stateOf?, all key member]
  cases outcome with
  | written => exact chained bears
  | skipped => exact chained bears
  | notReady =>
      obtain ⟨key, member, pending⟩ := bears
      exact ⟨key, member, by simp [marks.stateOf?, pending]⟩
  | failed reason => trivial

theorem Bears.onChain_of_isSettled {outcome : WindowOutcome} (bears : record.Bears window outcome)
    (settled : outcome.isSettled = true) : ∀ key ∈ window, record.stateOf? key = some .onChain := by
  cases outcome with
  | written => exact bears
  | skipped => exact bears
  | notReady => cases settled
  | failed reason => cases settled

theorem Bears.isSettled_of_stored {outcome : WindowOutcome} (bears : record.Bears window outcome)
    (kept : outcome.isFailed = false) (stored : ∀ key, record.stateOf? key ≠ some .pending) :
    outcome.isSettled = true := by
  cases outcome with
  | written => rfl
  | skipped => rfl
  | notReady =>
      obtain ⟨key, _, pending⟩ := bears
      exact absurd pending (stored key)
  | failed reason => cases kept

def Ready (record : Record) (window : Window) : Prop :=
  ∀ key ∈ window, ∃ state, record.stateOf? key = some state ∧ state ≠ .pending

theorem ready_of_entries? {entries : List RegistryEntry}
    (found : record.entries? window = some entries) : record.Ready window := by
  induction window generalizing entries with
  | nil => exact nofun
  | cons key rest ih =>
      rw [entries?_cons] at found
      obtain ⟨item, held, found⟩ := Option.bind_eq_some_iff.mp found
      obtain ⟨held, stored⟩ := Option.filter_eq_some_iff.mp held
      obtain ⟨others, more, _⟩ := Option.map_eq_some_iff.mp found
      intro other member
      rcases List.mem_cons.mp member with rfl | later
      · exact ⟨item.state, by rw [stateOf?, held, Option.map_some], of_decide_eq_true stored⟩
      · exact ih more other later

theorem Ready.marks (ready : record.Ready window) (marks : MarksTo keys record marked) :
    marked.Ready window := by
  intro key member
  obtain ⟨state, held, stored⟩ := ready key member
  rw [marks.stateOf?, held, Option.map_some]
  refine ⟨_, rfl, ?_⟩
  split
  · exact nofun
  · exact stored

theorem Ready.written (ready : record.Ready window) (marks : MarksTo window record marked) :
    marked.Bears window .written := by
  intro key member
  obtain ⟨state, held, stored⟩ := ready key member
  cases state with
  | pending => exact absurd rfl stored
  | uploaded => simp [marks.stateOf?, held, member]
  | onChain => simp [marks.stateOf?, held]

theorem bears_notReady (known : ∀ key ∈ window, key ∈ record.keys)
    (unready : record.entries? window = none) : record.Bears window .notReady := by
  by_contra stored
  have found := entries?_eq_some known fun key member pending => stored ⟨key, member, pending⟩
  rw [unready] at found
  cases found

theorem bears_skipped (all : record.allOnChain window = true) : record.Bears window .skipped :=
  fun key member => of_decide_eq_true (List.all_eq_true.mp all key member)

end Record

namespace Pass

/-- As a pass goes on, its outcomes are borne out by the record, and what is under way is stored. -/
structure Accounts (windows : List Window) (dealt : Window → Prop) (pass : Pass) : Prop where
  cuts : pass.handle.record.Cuts windows
  underWay : ∀ pending ∈ pass.underWay,
    pending.window ∈ windows ∧ pass.handle.record.Ready pending.window
  placed : pass.Placed windows dealt pass.handle.record.Bears

variable {windows : List Window} {dealt : Window → Prop} {pass : Pass} {window : Window}

theorem Accounts.initial {start : PartitionHandle} (cuts : start.record.Cuts windows) :
    Accounts windows (fun _ => False) { handle := start } :=
  ⟨cuts, nofun, fun _ _ => nofun⟩

theorem Accounts.settle (accounts : pass.Accounts windows dealt) (outcome : WindowOutcome)
    (member : window ∈ windows) (bears : pass.handle.record.Bears window outcome) :
    (pass.settle window outcome).Accounts windows fun other => other = window ∨ dealt other :=
  ⟨accounts.cuts, accounts.underWay,
    accounts.placed.settle outcome accounts.cuts.apart member bears⟩

theorem Accounts.mark (accounts : pass.Accounts windows dealt) {keys : List LocalKey}
    {marked : Record} (marks : Record.MarksTo keys pass.handle.record marked) :
    ({ pass with handle := { pass.handle with record := marked } } : Pass).Accounts windows
      dealt := by
  refine ⟨⟨accounts.cuts.whole.trans marks.keys_eq.symm, accounts.cuts.sound⟩, ?_, ?_⟩
  · intro pending found
    obtain ⟨member, ready⟩ := accounts.underWay pending found
    exact ⟨member, ready.marks marks⟩
  · exact accounts.placed.judge fun _ _ bears => bears.marks marks

theorem Accounts.begin (accounts : pass.Accounts windows dealt) (pending : Pending)
    (member : pending.window ∈ windows) (ready : pass.handle.record.Ready pending.window) :
    ({ pass with underWay := pass.underWay ++ [pending] } : Pass).Accounts windows
      fun other => other = pending.window ∨ dealt other := by
  refine ⟨accounts.cuts, fun other found => ?_, accounts.placed.begin pending⟩
  rcases List.mem_append.mp found with earlier | last
  · exact accounts.underWay other earlier
  · rw [List.mem_singleton.mp last]
    exact ⟨member, ready⟩

theorem Accounts.end (accounts : pass.Accounts windows dealt) {place : Nat} {ended : Pending}
    (there : pass.underWay[place]? = some ended) :
    ({ pass with underWay := pass.underWay.eraseIdx place } : Pass).Accounts windows
      fun other => dealt other ∧ other ≠ ended.window :=
  ⟨accounts.cuts, fun other found => accounts.underWay other (List.mem_of_mem_eraseIdx found),
    accounts.placed.end there⟩

theorem Accounts.rejoin {ended : Window} (accounts : pass.Accounts windows
      fun window => window = ended ∨ dealt window ∧ window ≠ ended) :
    pass.Accounts windows dealt :=
  ⟨accounts.cuts, accounts.underWay, accounts.placed.rejoin⟩

theorem Accounts.cons {rest : List Window} (accounts : pass.Accounts windows
      fun other => other ∈ rest ∨ other = window ∨ dealt other) :
    pass.Accounts windows fun other => other ∈ window :: rest ∨ dealt other :=
  ⟨accounts.cuts, accounts.underWay, accounts.placed.cons⟩

end Pass

namespace SyncReport

/-- Whether the report is on all windows of the record, each with an outcome that the record bears
out. -/
def Reviews (report : SyncReport) (record : Record) : Prop :=
  ∃ (windows : List Window) (outcome : Window → WindowOutcome), record.Cuts windows ∧
    report.windows = windows.map (fun window =>
      ⟨window.first, window.last, window.length, outcome window⟩) ∧
    ∀ window ∈ windows, record.Bears window (outcome window)

variable {report : SyncReport} {record : Record}

theorem reviews_of_accounts {windows : List Window} {pass : Pass} (startedAt : Moment)
    (accounts : pass.Accounts windows fun other => other ∈ windows ∨ False)
    (ended : pass.underWay = []) :
    Reviews ⟨startedAt, windows.map (Pipeline.reportWindow pass.outcomes)⟩ pass.handle.record := by
  refine ⟨windows, fun window => pass.outcomes[window.first]?.getD .notReady, accounts.cuts, rfl,
    fun window member => ?_⟩
  rcases accounts.placed window member (Or.inl member) with ⟨_, waiting, _⟩ | ⟨_, held, bears⟩
  · rw [ended] at waiting
    cases waiting
  · simp only [held, Option.getD_some]
    exact bears

theorem reviews_of_isEmpty (startedAt : Moment) (empty : record.items.isEmpty = true) :
    Reviews ⟨startedAt, []⟩ record := by
  refine ⟨[], fun _ => .notReady, ⟨?_, nofun⟩, rfl, nofun⟩
  rw [Record.keys, Std.ExtTreeMap.isEmpty_iff.mp empty]
  rfl

theorem isFailed_of_mem (clean : report.failed = 0) {told : WindowReport}
    (member : told ∈ report.windows) : told.outcome.isFailed = false := by
  have none := List.countP_eq_zero.mp clean told member
  exact Bool.eq_false_of_not_eq_true none

theorem Reviews.onChain_of_isComplete (reviews : report.Reviews record)
    (complete : report.isComplete = true) :
    ∀ key ∈ record.keys, record.stateOf? key = some .onChain := by
  obtain ⟨windows, outcome, cuts, told, bears⟩ := reviews
  intro key known
  obtain ⟨window, member, found⟩ := cuts.exists_window known
  rw [isComplete, told, List.all_map, List.all_eq_true] at complete
  exact (bears window member).onChain_of_isSettled (complete window member) key found

theorem Reviews.isComplete_of_stored (reviews : report.Reviews record) (clean : report.failed = 0)
    (stored : ∀ key, record.stateOf? key ≠ some .pending) : report.isComplete = true := by
  obtain ⟨windows, outcome, _, told, bears⟩ := reviews
  rw [isComplete, told, List.all_map, List.all_eq_true]
  intro window member
  refine (bears window member).isSettled_of_stored ?_ stored
  exact isFailed_of_mem clean (told ▸ List.mem_map_of_mem member)

theorem Reviews.tfae (reviews : report.Reviews record) (clean : report.failed = 0) :
    [report.isComplete = true,
      ∀ key item, record.get? key = some item → item.state = .onChain,
      ∀ key item, record.get? key = some item → item.state ≠ .pending].TFAE := by
  tfae_have 1 → 2 := by
    intro complete key item held
    have state : record.stateOf? key = some item.state := congrArg (Option.map Item.state) held
    have chained := reviews.onChain_of_isComplete complete key (Record.mem_keys_of_stateOf? state)
    exact Option.some.inj (state.symm.trans chained)
  tfae_have 2 → 3 := by
    intro chained key item held pending
    rw [chained key item held] at pending
    cases pending
  tfae_have 3 → 1 := by
    intro stored
    refine reviews.isComplete_of_stored clean fun key pending => ?_
    obtain ⟨item, held, state⟩ := Option.map_eq_some_iff.mp pending
    exact stored key item held state
  tfae_finish

end SyncReport

end Cadastre
