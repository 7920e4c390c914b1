import Cadastre.Proofs.Pipeline.Windows
import Cadastre.Proofs.Registry.Safety
import Mathlib.Data.List.SplitBy

/-!
Windows against the blocks that they lie in. For ascending keys they are the only way to cut the
keys into aligned runs of which no two neighbours could be one. To find them nobody asks for the
key above the last one, and a registry that has a line for every key has room for every window.
-/

namespace Cadastre

/-- The key above this one, refused if this is the last key that there is. -/
def Checked.above (key : LocalKey) : Option LocalKey :=
  if key.toNat + 1 < UInt32.size then some (key + 1) else none

namespace Window

variable {size : UInt64} {keys : List LocalKey} {window : Window} {windows : List Window}

/-! The same cut, in which the key above the last one is refused and not zero. -/

def joinsChecked (size : UInt64) (key next : LocalKey) : Option Bool := do
  let above ← Checked.above key
  pure (next = above && next.toUInt64 / size = key.toUInt64 / size)

def extendChecked (size : UInt64) (key : LocalKey) : List Window → Option (List Window)
  | (next :: more) :: others => do
    let joined ← joinsChecked size key next
    pure (if joined then (key :: next :: more) :: others else [key] :: (next :: more) :: others)
  | others => some ([key] :: others)

def ofKeysChecked (size : UInt64) : List LocalKey → Option (List Window)
  | [] => some []
  | key :: rest => do
    let windows ← ofKeysChecked size rest
    extendChecked size key windows

/-- Keys that follow one another from the first one on, in one block of `size` keys. -/
structure Aligned (size : UInt64) (window : Window) : Prop where
  filled : window ≠ []
  numbered : ∀ place, (inside : place < window.length) →
    window[place].toNat = window.first.toNat + place
  block : ∃ block, ∀ key ∈ window,
    block * size.toNat ≤ key.toNat ∧ key.toNat < (block + 1) * size.toNat

/-- The windows are the keys, each is aligned, and no two neighbours would be if they were one. -/
structure Tiles (size : UInt64) (keys : List LocalKey) (windows : List Window) : Prop where
  whole : windows.flatten = keys
  aligned : ∀ window ∈ windows, window.Aligned size
  maximal : windows.IsChain fun one next => ¬ Aligned size (one ++ next)

/-- The call is to write the lines of the window, to a registry of this capacity that it shows the
identifiers of. -/
structure WrittenBy (window : Window) (call : AppendCall) (ledger : Ledger) (capacity : UInt32) :
    Prop where
  first : call.first = window.first
  length : call.entries.length = window.length
  registry : ∃ registry, ledger.get? call.handle.locator = some registry ∧
    registry.uniqueId = call.handle.uniqueId ∧ registry.capacity = capacity

section Keys

variable {key next : LocalKey}

theorem above_of_lt (below : key < next) :
    Checked.above key = some (key + 1) ∧ (key + 1).toNat = key.toNat + 1 := by
  have less : key.toNat < next.toNat := UInt32.lt_iff_toNat_lt.mp below
  have bound := next.toNat_lt
  have fits : key.toNat + 1 < UInt32.size := by
    change key.toNat + 1 < 2 ^ 32
    omega
  refine ⟨if_pos fits, ?_⟩
  rw [UInt32.toNat_add]
  exact Nat.mod_eq_of_lt fits

theorem joinsChecked_of_lt (below : key < next) :
    joinsChecked size key next = some (joins size key next) := by
  rw [joinsChecked, (above_of_lt below).1]
  rfl

theorem joins_iff (below : key < next) :
    joins size key next = true ↔
      next.toNat = key.toNat + 1 ∧ next.toNat / size.toNat = key.toNat / size.toNat := by
  simp only [joins, Bool.and_eq_true, decide_eq_true_eq, ← UInt32.toNat_inj, ← UInt64.toNat_inj,
    UInt64.toNat_div, UInt32.toNat_toUInt64, (above_of_lt below).2]

end Keys

theorem ofKeys_cons (size : UInt64) (key : LocalKey) (rest : List LocalKey) :
    ofKeys size (key :: rest) = extend size key (ofKeys size rest) := rfl

theorem extendChecked_eq {key : LocalKey} (below : ∀ other ∈ windows.flatten, key < other) :
    extendChecked size key windows = some (extend size key windows) := by
  match windows, below with
  | [], _ => rfl
  | [] :: others, _ => rfl
  | (next :: more) :: others, below =>
      rw [extendChecked, joinsChecked_of_lt (below next (by simp))]
      rfl

theorem ofKeysChecked_eq (ascending : keys.Pairwise (· < ·)) :
    ofKeysChecked size keys = some (ofKeys size keys) := by
  induction keys with
  | nil => rfl
  | cons key rest ih =>
      obtain ⟨below, ascending⟩ := List.pairwise_cons.mp ascending
      rw [ofKeysChecked, ih ascending, ofKeys_cons]
      apply extendChecked_eq
      rw [flatten_ofKeys]
      exact below

/-! The windows as the runs of a relation between neighbours. -/

theorem extend_breaks {key : LocalKey} (filled : [] ∉ windows)
    (breaks : windows.IsChain fun one next => ∃ ends begins,
      joins size (one.getLast ends) (next.head begins) = false) :
    (extend size key windows).IsChain fun one next => ∃ ends begins,
      joins size (one.getLast ends) (next.head begins) = false := by
  unfold extend
  split
  · rename_i next more others
    by_cases joined : joins size key next = true
    · rw [if_pos joined]
      cases others with
      | nil => exact List.IsChain.singleton _
      | cons second later =>
          obtain ⟨⟨ends, begins, apart⟩, rest⟩ := List.isChain_cons_cons.mp breaks
          refine List.isChain_cons_cons.mpr ⟨⟨by simp, begins, ?_⟩, rest⟩
          simpa using apart
    · rw [if_neg joined]
      refine List.isChain_cons_cons.mpr ⟨⟨by simp, by simp, ?_⟩, breaks⟩
      simpa using joined
  · rename_i other
    match windows, filled, other with
    | [], _, _ => exact List.IsChain.singleton _
    | [] :: others, filled, _ => exact absurd List.mem_cons_self filled
    | (next :: more) :: others, _, other => exact absurd rfl (other next more others)

theorem ofKeys_breaks (size : UInt64) (keys : List LocalKey) :
    (ofKeys size keys).IsChain fun one next => ∃ ends begins,
      joins size (one.getLast ends) (next.head begins) = false := by
  induction keys with
  | nil => exact List.IsChain.nil
  | cons key rest ih =>
      rw [ofKeys_cons]
      exact extend_breaks (fun empty => (ofKeys_runs size rest [] empty).1 rfl) ih

theorem ofKeys_eq_splitBy (size : UInt64) (keys : List LocalKey) :
    ofKeys size keys = keys.splitBy (joins size) := by
  symm
  refine List.splitBy_eq_iff.mpr ⟨(flatten_ofKeys size keys).symm, fun empty => ?_,
    fun window member => (ofKeys_runs size keys window member).2, ofKeys_breaks size keys⟩
  exact (ofKeys_runs size keys [] empty).1 rfl

/-! Aligned windows are the runs of that relation. -/

theorem first_eq_head (filled : window ≠ []) : window.first = window.head filled := by
  rw [first, List.head?_eq_some_head filled]
  rfl

theorem Aligned.isChain (aligned : window.Aligned size) (ascending : window.Pairwise (· < ·)) :
    window.IsChain fun key next => joins size key next := by
  obtain ⟨block, bounds⟩ := aligned.block
  have quotient : ∀ key ∈ window, key.toNat / size.toNat = block := by
    intro key member
    obtain ⟨lower, upper⟩ := bounds key member
    exact Nat.div_eq_of_lt_le lower upper
  refine List.isChain_iff_getElem.mpr fun place inside => ?_
  have below := List.pairwise_iff_getElem.mp ascending place (place + 1) (by omega) inside (by omega)
  have number := aligned.numbered place (by omega)
  have number' := aligned.numbered (place + 1) inside
  apply (joins_iff below).mpr
  rw [quotient _ (List.getElem_mem _), quotient _ (List.getElem_mem _)]
  exact ⟨by omega, rfl⟩

theorem aligned_of_isChain (positive : 0 < size) (filled : window ≠ [])
    (ascending : window.Pairwise (· < ·))
    (chain : window.IsChain fun key next => joins size key next) : window.Aligned size := by
  have step : ∀ place, (inside : place < window.length) →
      window[place].toNat = window.first.toNat + place ∧
        window[place].toNat / size.toNat = window.first.toNat / size.toNat := by
    intro place
    induction place with
    | zero =>
        intro inside
        rw [first_eq_head filled, List.head_eq_getElem]
        exact ⟨rfl, rfl⟩
    | succ place ih =>
        intro inside
        obtain ⟨number, quotient⟩ := ih (by omega)
        have below :=
          List.pairwise_iff_getElem.mp ascending place (place + 1) (by omega) inside (by omega)
        have joined := (joins_iff below).mp (List.isChain_iff_getElem.mp chain place inside)
        exact ⟨by omega, joined.2.trans quotient⟩
  refine ⟨filled, fun place inside => (step place inside).1, window.first.toNat / size.toNat, ?_⟩
  intro key member
  obtain ⟨place, inside, rfl⟩ := List.getElem_of_mem member
  rw [← (step place inside).2]
  have whole : 0 < size.toNat := UInt64.lt_iff_toNat_lt.mp positive
  exact ⟨Nat.div_mul_le_self _ _, (Nat.div_lt_iff_lt_mul whole).mp (Nat.lt_succ_self _)⟩

theorem aligned_iff (positive : 0 < size) (ascending : window.Pairwise (· < ·)) :
    window.Aligned size ↔ window ≠ [] ∧ window.IsChain fun key next => joins size key next :=
  ⟨fun aligned => ⟨aligned.filled, aligned.isChain ascending⟩,
    fun ⟨filled, chain⟩ => aligned_of_isChain positive filled ascending chain⟩

theorem aligned_append_iff {one next : Window} (positive : 0 < size)
    (ascending : (one ++ next).Pairwise (· < ·)) (aligned : one.Aligned size)
    (aligned' : next.Aligned size) :
    Aligned size (one ++ next) ↔
      joins size (one.getLast aligned.filled) (next.head aligned'.filled) = true := by
  have parts := List.pairwise_append.mp ascending
  rw [aligned_iff positive ascending, List.isChain_append]
  constructor
  · rintro ⟨_, _, _, joined⟩
    exact joined _ (List.getLast_mem_getLast? _) _ (List.head_mem_head? _)
  · intro joined
    refine ⟨by simp [aligned.filled], aligned.isChain parts.1, aligned'.isChain parts.2.1, ?_⟩
    intro last ends first begins
    rw [← List.getLast_of_mem_getLast? ends, ← List.head_of_mem_head? begins]
    exact joined

theorem breaks_iff (positive : 0 < size) (ascending : windows.flatten.Pairwise (· < ·))
    (aligned : ∀ window ∈ windows, window.Aligned size) :
    (windows.IsChain fun one next => ¬ Aligned size (one ++ next)) ↔
      windows.IsChain fun one next => ∃ ends begins,
        joins size (one.getLast ends) (next.head begins) = false := by
  induction windows with
  | nil => simp
  | cons one rest ih =>
      cases rest with
      | nil => simp
      | cons next others =>
          obtain ⟨first, later⟩ := List.forall_mem_cons.mp aligned
          have second := later next List.mem_cons_self
          rw [List.flatten_cons] at ascending
          have beside : (one ++ next).Pairwise (· < ·) := by
            rw [List.flatten_cons, ← List.append_assoc] at ascending
            exact (List.pairwise_append.mp ascending).1
          rw [List.isChain_cons_cons, List.isChain_cons_cons,
            ih (List.pairwise_append.mp ascending).2.1 later,
            aligned_append_iff positive beside first second, Bool.not_eq_true]
          exact and_congr_left fun _ => ⟨fun apart => ⟨_, _, apart⟩, fun ⟨_, _, apart⟩ => apart⟩

theorem tiles_iff (positive : 0 < size) (ascending : keys.Pairwise (· < ·)) :
    Tiles size keys windows ↔ windows = ofKeys size keys := by
  rw [ofKeys_eq_splitBy, eq_comm, List.splitBy_eq_iff]
  constructor
  · rintro ⟨rfl, aligned, maximal⟩
    refine ⟨rfl, fun empty => (aligned [] empty).filled rfl, fun window member => ?_,
      (breaks_iff positive ascending aligned).mp maximal⟩
    exact (aligned window member).isChain ((List.pairwise_flatten.mp ascending).1 window member)
  · rintro ⟨rfl, filled, runs, breaks⟩
    have aligned : ∀ window ∈ windows, window.Aligned size := by
      intro window member
      exact aligned_of_isChain positive (ne_of_mem_of_not_mem member filled)
        ((List.pairwise_flatten.mp ascending).1 window member) (runs window member)
    exact ⟨rfl, aligned, (breaks_iff positive ascending aligned).mpr breaks⟩

/-! How far an aligned window reaches. -/

theorem Aligned.exists_last (aligned : window.Aligned size) :
    ∃ last ∈ window, last.toNat + 1 = window.first.toNat + window.length := by
  have long : 0 < window.length := List.length_pos_iff.mpr aligned.filled
  refine ⟨window[window.length - 1], List.getElem_mem _, ?_⟩
  have number := aligned.numbered (window.length - 1) (by omega)
  omega

theorem Aligned.length_le (aligned : window.Aligned size) : window.length ≤ size.toNat := by
  obtain ⟨block, bounds⟩ := aligned.block
  obtain ⟨last, member, reach⟩ := aligned.exists_last
  have lower := (bounds _ (first_mem aligned.filled)).1
  have upper := (bounds last member).2
  rw [Nat.succ_mul] at upper
  omega

theorem Aligned.stop_le (aligned : window.Aligned size) {capacity : UInt32}
    (below : ∀ key ∈ window, key < capacity) :
    window.first.toNat + window.length ≤ capacity.toNat := by
  obtain ⟨last, member, reach⟩ := aligned.exists_last
  have inside := UInt32.lt_iff_toNat_lt.mp (below last member)
  omega

theorem WrittenBy.appended_iff {call : AppendCall} {ledger : Ledger} {capacity : UInt32}
    {path : String} {contents : Option Bytes} (written : window.WrittenBy call ledger capacity)
    (room : window.first.toNat + window.length ≤ capacity.toNat)
    (opened : Ledger.ofFile contents = .ok ledger) :
    ((LedgerCall.append call).perform path contents).1 = .ok .appended ↔
      ∀ entry ∈ call.entries, entry.Fits := by
  rw [LedgerCall.appended_iff opened]
  constructor
  · intro accepts
    exact accepts.1
  · intro fits
    obtain ⟨registry, found, same, size⟩ := written.registry
    refine ⟨fits, registry, found, same, ?_⟩
    rw [written.first, written.length, size]
    exact room

/-- Ascending keys have one cut into aligned windows of which no neighbours go together, and this
is the cut that is found, whose arithmetic never wraps. No window is longer than a block. If every
key is below the capacity, then so is every line of a window, and a window is written unless its
entries are refused. -/
theorem cut_into_maximal_runs {size : UInt64} {keys : List LocalKey} (positive : 0 < size)
    (ascending : keys.Pairwise (· < ·)) :
    (∀ windows, Tiles size keys windows ↔ windows = ofKeys size keys) ∧
    ofKeysChecked size keys = some (ofKeys size keys) ∧
    (∀ window ∈ ofKeys size keys, window.length ≤ size.toNat) ∧
    ∀ capacity : UInt32, (∀ key ∈ keys, key < capacity) → ∀ window ∈ ofKeys size keys,
      window.first.toNat + window.length ≤ capacity.toNat ∧
      ∀ (path : String) (contents : Option Bytes) (ledger : Ledger) (call : AppendCall),
        Ledger.ofFile contents = .ok ledger → window.WrittenBy call ledger capacity →
        (((LedgerCall.append call).perform path contents).1 = .ok .appended ↔
          ∀ entry ∈ call.entries, entry.Fits) := by
  have tiles : Tiles size keys (ofKeys size keys) := (tiles_iff positive ascending).mpr rfl
  refine ⟨fun _ => tiles_iff positive ascending, ofKeysChecked_eq ascending,
    fun window member => (tiles.aligned window member).length_le, ?_⟩
  intro capacity below window member
  have within : ∀ key ∈ window, key < capacity := by
    intro key found
    apply below
    rw [← tiles.whole]
    exact List.mem_flatten.mpr ⟨window, member, found⟩
  have room := (tiles.aligned window member).stop_le within
  exact ⟨room, fun _ _ _ _ opened written => written.appended_iff room opened⟩

/-- A block that is begun late, one that is cut by a gap, and one that ends with the last key that
there is; then a window that ends where its registry does. -/
theorem runs_up_to_the_last_line :
    (∃ keys : List LocalKey, (0 : UInt64) < 10 ∧ keys.Pairwise (· < ·) ∧
      Tiles 10 keys [[8, 9], [10, 11], [13], [4294967294, 4294967295]] ∧
      ofKeysChecked 10 keys = some [[8, 9], [10, 11], [13], [4294967294, 4294967295]]) ∧
    ∃ (window : Window) (call : AppendCall) (ledger : Ledger), (0 : UInt64) < 10 ∧
      window.WrittenBy call ledger 12 ∧
      ((LedgerCall.append call).perform "ledger.json" (some ledger.bytes)).1 = .ok .appended := by
  have positive : (0 : UInt64) < 10 := by decide
  constructor
  · let keys : List LocalKey := [8, 9, 10, 11, 13, 4294967294, 4294967295]
    have ascending : keys.Pairwise (· < ·) := by decide
    have found : [[8, 9], [10, 11], [13], [4294967294, 4294967295]] = ofKeys 10 keys := by decide
    obtain ⟨tiles, checked, _⟩ := cut_into_maximal_runs positive ascending
    exact ⟨keys, positive, ascending, (tiles _).mpr found, found ▸ checked⟩
  · let keys : List LocalKey := [8, 9, 10, 11]
    have ascending : keys.Pairwise (· < ·) := by decide
    let window : Window := [10, 11]
    let call : AppendCall :=
      ⟨⟨"001122", "registry-0"⟩, [⟨"Land #1", "ipfs://1"⟩, ⟨"Land #2", "ipfs://2"⟩], 10⟩
    let registry : Registry := ⟨"001122", 12, ⟨"LAND", 500, [], true, true, 0⟩, "", ∅⟩
    have written : window.WrittenBy call (Ledger.empty.put "registry-0" registry) 12 :=
      ⟨rfl, rfl, registry, Ledger.get?_put_self _ _ _, rfl, rfl⟩
    have found : [[8, 9], window] = ofKeys 10 keys := by decide
    have below : ∀ key ∈ keys, key < 12 := by simp [keys]
    obtain ⟨_, _, _, room⟩ := cut_into_maximal_runs positive ascending
    have fits := (room 12 below window (by simp [← found])).2 "ledger.json" _ _ call
      (Ledger.ofFile_bytes _) written
    refine ⟨window, call, _, positive, written, fits.mpr ?_⟩
    simp only [← RegistryEntry.rejection?_eq_none_iff]
    decide

end Window

end Cadastre
