import Cadastre.Item.Batch
import Mathlib.Algebra.Order.Group.Nat
import Mathlib.Data.List.Chain

/-!
Batches of a queue. Filling one batch after the other loses nothing, keeps each batch within the
budget, and needs no more batches than any other way to cut the queue.
-/

namespace Cadastre

def FilePair.total (pairs : List FilePair) : Nat :=
  pairs.foldr (fun pair total => pair.size.toNat + total) 0

section Total

open FilePair (total)

@[simp] theorem FilePair.total_nil : total [] = 0 := rfl

@[simp] theorem FilePair.total_cons (pair : FilePair) (rest : List FilePair) :
    total (pair :: rest) = pair.size.toNat + total rest := rfl

@[simp] theorem FilePair.total_append (first second : List FilePair) :
    total (first ++ second) = total first + total second := by
  induction first with
  | nil => simp
  | cons pair rest ih => simp [ih, Nat.add_assoc]

@[simp] theorem FilePair.total_reverse (pairs : List FilePair) :
    total pairs.reverse = total pairs := by
  induction pairs with
  | nil => rfl
  | cons pair rest ih => simp [ih, Nat.add_comm]

end Total

namespace Batch

open FilePair (total)

theorem flatten_pack (budget : UInt64) (held : List FilePair) (bytes : UInt64)
    (rest : List FilePair) :
    ((pack budget held bytes rest).map items).flatten = held.reverse ++ rest := by
  induction rest generalizing held bytes with
  | nil =>
      rw [pack]
      split
      · rename_i empty
        rw [List.isEmpty_iff.mp empty]
        rfl
      · simp
  | cons pair rest ih =>
      rw [pack]
      split
      · rw [List.map_cons, List.flatten_cons, ih]
        rfl
      · rw [ih, List.reverse_cons, List.append_assoc]
        rfl

/-- The open batch is counted right and within the budget, the pairs that are left fit the budget
one by one, and no sum that may come up leaves the range of words. -/
structure Filling (budget : UInt64) (held : List FilePair) (bytes : UInt64)
    (rest : List FilePair) : Prop where
  exact : bytes.toNat = total held
  within : total held ≤ budget.toNat
  each : ∀ pair ∈ rest, pair.size ≤ budget
  below : total held + total rest < 2 ^ 64

variable {budget bytes : UInt64} {held rest group : List FilePair} {pair : FilePair}

theorem Filling.cases (filling : Filling budget held bytes (pair :: rest)) :
    (held ≠ [] ∧ budget.toNat < total held + pair.size.toNat ∧
      pack budget held bytes (pair :: rest)
        = ⟨held.reverse, bytes⟩ :: pack budget [pair] pair.size rest ∧
      Filling budget [pair] pair.size rest) ∨
    (total held + pair.size.toNat ≤ budget.toNat ∧
      pack budget held bytes (pair :: rest)
        = pack budget (pair :: held) (bytes + pair.size) rest ∧
      Filling budget (pair :: held) (bytes + pair.size) rest) := by
  obtain ⟨exact, within, each, below⟩ := filling
  obtain ⟨small, each⟩ := List.forall_mem_cons.mp each
  rw [UInt64.le_iff_toNat_le] at small
  rw [FilePair.total_cons] at below
  have sum : (bytes + pair.size).toNat = total held + pair.size.toNat := by
    rw [UInt64.toNat_add, exact]
    omega
  by_cases tight : held ≠ [] ∧ budget.toNat < total held + pair.size.toNat
  · obtain ⟨filled, tight⟩ := tight
    refine Or.inl ⟨filled, tight, ?_, by simp, by simpa using small, each, ?_⟩
    · rw [pack, if_pos]
      rw [Bool.and_eq_true, decide_eq_true_eq, UInt64.lt_iff_toNat_lt, sum]
      exact ⟨by simpa using filled, tight⟩
    · simp only [FilePair.total_cons, FilePair.total_nil]
      omega
  · have fits : total held + pair.size.toNat ≤ budget.toNat := by
      by_cases empty : held = []
      · simpa [empty] using small
      · exact Nat.le_of_not_lt fun more => tight ⟨empty, more⟩
    refine Or.inr ⟨fits, ?_, ?_, ?_, each, ?_⟩
    · rw [pack, if_neg]
      rw [Bool.and_eq_true, decide_eq_true_eq, UInt64.lt_iff_toNat_lt, sum]
      omega
    · rw [sum, FilePair.total_cons, Nat.add_comm]
    · rw [FilePair.total_cons]
      omega
    · rw [FilePair.total_cons]
      omega

theorem Filling.start {items : List FilePair} (each : ∀ pair ∈ items, pair.size ≤ budget)
    (below : total items < 2 ^ 64) : Filling budget [] 0 items :=
  ⟨rfl, Nat.zero_le _, each, by simpa using below⟩

theorem pack_nil (filled : held ≠ []) :
    pack budget held bytes [] = [⟨held.reverse, bytes⟩] := by
  rw [pack, if_neg (by simpa using filled)]

theorem Filling.closed (filling : Filling budget held bytes rest) (filled : held ≠ []) :
    held.reverse ≠ [] ∧ bytes.toNat = total held.reverse ∧ bytes ≤ budget := by
  rw [FilePair.total_reverse, UInt64.le_iff_toNat_le, filling.exact]
  exact ⟨by simpa using filled, rfl, filling.within⟩

theorem Filling.sound (filling : Filling budget held bytes rest) :
    ∀ batch ∈ pack budget held bytes rest,
      batch.items ≠ [] ∧ batch.bytes.toNat = total batch.items ∧ batch.bytes ≤ budget := by
  induction rest generalizing held bytes with
  | nil =>
      by_cases filled : held = []
      · simp [pack, filled]
      · rw [pack_nil filled, List.forall_mem_singleton]
        exact filling.closed filled
  | cons pair rest ih =>
      rcases filling.cases with ⟨filled, _, packed, next⟩ | ⟨_, packed, next⟩
      · rw [packed, List.forall_mem_cons]
        exact ⟨filling.closed filled, ih next⟩
      · rw [packed]
        exact ih next

theorem Filling.first (filling : Filling budget held bytes rest) (filled : held ≠ []) :
    ∃ batch others, pack budget held bytes rest = batch :: others ∧
      held.reverse <+: batch.items := by
  induction rest generalizing held bytes with
  | nil => exact ⟨_, [], pack_nil filled, List.prefix_rfl⟩
  | cons pair rest ih =>
      rcases filling.cases with ⟨_, _, packed, _⟩ | ⟨_, packed, next⟩
      · exact ⟨_, _, packed, List.prefix_rfl⟩
      · obtain ⟨batch, others, packed', begins⟩ := ih next (by simp)
        rw [List.reverse_cons] at begins
        exact ⟨batch, others, packed.trans packed', (List.prefix_append _ _).trans begins⟩

def FullBefore (budget : UInt64) (batch next : Batch) : Prop :=
  ∃ pair ∈ next.items.head?, budget.toNat < batch.bytes.toNat + pair.size.toNat

theorem Filling.full (filling : Filling budget held bytes rest) :
    (pack budget held bytes rest).IsChain (FullBefore budget) := by
  induction rest generalizing held bytes with
  | nil =>
      by_cases filled : held = []
      · simp [pack, filled]
      · rw [pack_nil filled]
        exact List.isChain_singleton _
  | cons pair rest ih =>
      rcases filling.cases with ⟨_, tight, packed, next⟩ | ⟨_, packed, next⟩
      · obtain ⟨batch, others, packed', begins⟩ := next.first (by simp)
        have chain := ih next
        rw [packed, packed', List.isChain_cons_cons]
        refine ⟨⟨pair, ?_, ?_⟩, packed' ▸ chain⟩
        · obtain ⟨more, items⟩ := begins
          rw [← items]
          rfl
        · rw [filling.exact]
          exact tight
      · rw [packed]
        exact ih next

theorem Filling.absorb (filling : Filling budget held bytes (group ++ rest))
    (room : total held + total group ≤ budget.toNat) :
    ∃ bytes', pack budget held bytes (group ++ rest)
        = pack budget (group.reverse ++ held) bytes' rest ∧
      Filling budget (group.reverse ++ held) bytes' rest := by
  induction group generalizing held bytes with
  | nil => exact ⟨bytes, rfl, filling⟩
  | cons pair group ih =>
      rw [FilePair.total_cons] at room
      rw [List.cons_append] at filling ⊢
      rcases filling.cases with ⟨_, tight, _⟩ | ⟨_, packed, next⟩
      · omega
      · obtain ⟨bytes', packed', after⟩ := ih next (by rw [FilePair.total_cons]; omega)
        rw [List.reverse_cons, List.append_assoc]
        exact ⟨bytes', packed.trans packed', after⟩

/-- While a group that fits the budget goes by, at most one batch is closed. -/
theorem Filling.pass (filling : Filling budget held bytes (group ++ rest)) (filled : held ≠ [])
    (fits : total group ≤ budget.toNat) :
    ∃ held' bytes', held' ≠ [] ∧ Filling budget held' bytes' rest ∧
      (pack budget held bytes (group ++ rest)).length
        ≤ (pack budget held' bytes' rest).length + 1 := by
  induction group generalizing held bytes with
  | nil => exact ⟨held, bytes, filled, filling, Nat.le_succ _⟩
  | cons pair group ih =>
      rw [FilePair.total_cons] at fits
      rw [List.cons_append] at filling ⊢
      rcases filling.cases with ⟨_, _, packed, next⟩ | ⟨_, packed, next⟩
      · -- The new batch has room for all that is left of the group.
        obtain ⟨bytes', packed', after⟩ := next.absorb (by simpa using fits)
        refine ⟨_, bytes', by simp, after, ?_⟩
        rw [packed, packed', List.length_cons]
      · rw [packed]
        exact ih next (by simp) (by omega)

theorem Filling.length_le {groups : List (List FilePair)}
    (filling : Filling budget held bytes groups.flatten) (filled : held ≠ [])
    (fits : ∀ group ∈ groups, total group ≤ budget.toNat) :
    (pack budget held bytes groups.flatten).length ≤ groups.length + 1 := by
  induction groups generalizing held bytes with
  | nil => simp [pack_nil filled]
  | cons group groups ih =>
      obtain ⟨small, fits⟩ := List.forall_mem_cons.mp fits
      rw [List.flatten_cons] at filling ⊢
      obtain ⟨held', bytes', filled', next, shorter⟩ := filling.pass filled small
      have others := ih next filled' fits
      rw [List.length_cons]
      omega

theorem Filling.fewest {groups : List (List FilePair)}
    (filling : Filling budget [] 0 groups.flatten)
    (fits : ∀ group ∈ groups, total group ≤ budget.toNat) :
    (pack budget [] 0 groups.flatten).length ≤ groups.length := by
  induction groups with
  | nil => simp [pack]
  | cons group groups ih =>
      obtain ⟨small, others⟩ := List.forall_mem_cons.mp fits
      rw [List.flatten_cons] at filling ⊢
      rw [List.length_cons]
      by_cases empty : group = []
      · subst empty
        exact Nat.le_succ_of_le (ih filling others)
      · obtain ⟨bytes', packed, next⟩ := filling.absorb (by simpa using small)
        rw [packed]
        exact next.length_le (by simpa using empty) others

structure Serves (budget : UInt64) (items : List FilePair) (batches : List Batch) : Prop where
  whole : (batches.map Batch.items).flatten = items
  filled : ∀ batch ∈ batches, batch.items ≠ []
  exact : ∀ batch ∈ batches, batch.bytes.toNat = total batch.items
  within : ∀ batch ∈ batches, batch.bytes ≤ budget
  full : batches.IsChain (FullBefore budget)
  fewest : ∀ groups : List (List FilePair), groups.flatten = items →
    (∀ group ∈ groups, total group ≤ budget.toNat) → batches.length ≤ groups.length

theorem serves_pack {items : List FilePair} (each : ∀ pair ∈ items, pair.size ≤ budget)
    (below : total items < 2 ^ 64) : Serves budget items (pack budget [] 0 items) := by
  have filling := Filling.start each below
  refine ⟨flatten_pack budget [] 0 items, fun batch found => (filling.sound batch found).1,
    fun batch found => (filling.sound batch found).2.1,
    fun batch found => (filling.sound batch found).2.2, filling.full, ?_⟩
  rintro groups rfl fits
  exact filling.fewest fits

theorem plan_eq_error_iff (items : List FilePair) (budget : UInt64) (fault : Fault) :
    plan items budget = .error fault ↔
      ∃ before pair after, items = before ++ pair :: after ∧
        (∀ earlier ∈ before, earlier.size ≤ budget) ∧ budget < pair.size ∧
        fault = .payloadTooLarge pair.key pair.size budget := by
  have first (pair : FilePair) :
      items.find? (fun pair => budget < pair.size) = some pair ↔
        budget < pair.size ∧ ∃ before after, items = before ++ pair :: after ∧
          ∀ earlier ∈ before, earlier.size ≤ budget := by
    simp [List.find?_eq_some_iff_append]
  rw [plan]
  constructor
  · intro failed
    split at failed
    · rename_i pair found
      obtain ⟨large, before, after, whole, small⟩ := (first pair).mp found
      cases failed
      exact ⟨before, pair, after, whole, small, large, rfl⟩
    · cases failed
  · rintro ⟨before, pair, after, whole, small, large, rfl⟩
    rw [(first pair).mpr ⟨large, before, after, whole, small⟩]

theorem plan_eq_ok {items : List FilePair} (each : ∀ pair ∈ items, pair.size ≤ budget) :
    plan items budget = .ok (pack budget [] 0 items) := by
  rw [plan, List.find?_eq_none.mpr]
  intro pair found large
  exact UInt64.not_lt.mpr (each pair found) (decide_eq_true_eq.mp large)

/-- A plan fails just if a pair is larger than the budget, and blames the first such pair. Else it
is the whole queue in order, in as few batches as the budget allows. -/
theorem plan_serves (items : List FilePair) (budget : UInt64) (below : total items < 2 ^ 64) :
    (∀ fault, plan items budget = .error fault ↔
      ∃ before pair after, items = before ++ pair :: after ∧
        (∀ earlier ∈ before, earlier.size ≤ budget) ∧ budget < pair.size ∧
        fault = .payloadTooLarge pair.key pair.size budget) ∧
    ((∀ pair ∈ items, pair.size ≤ budget) →
      ∃ batches, plan items budget = .ok batches ∧ Serves budget items batches) :=
  ⟨plan_eq_error_iff items budget, fun each => ⟨_, plan_eq_ok each, serves_pack each below⟩⟩

theorem plan_of_exact_fits :
    let items : List FilePair := [⟨0, "0.png", "0.json", 0⟩, ⟨1, "1.png", "1.json", 10⟩,
      ⟨2, "2.png", "2.json", 4⟩, ⟨3, "3.png", "3.json", 6⟩, ⟨4, "4.png", "4.json", 1⟩]
    total items < 2 ^ 64 ∧ (∀ pair ∈ items, pair.size ≤ 10) ∧
      ∃ batches, plan items 10 = .ok batches ∧ Serves 10 items batches := by
  intro items
  have below : total items < 2 ^ 64 := by decide
  have each : ∀ pair ∈ items, pair.size ≤ 10 := by decide
  exact ⟨below, each, (plan_serves items 10 below).2 each⟩

end Batch

end Cadastre
