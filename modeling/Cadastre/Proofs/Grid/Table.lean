import Cadastre.Proofs.Grid.Permutation
import Mathlib.Data.List.Count
import Mathlib.Data.List.Nodup

/-!
Which tables are permutations: those that hold every key below their size once. Any other table is
refused for its first position whose key is out of range or has occurred before.
-/

namespace Cadastre

/-- What is wrong with the key at a position of a table. -/
inductive TableFault.At (table : Array UInt32) (position : Nat) : TableFault → Prop
  | outOfRange {key : UInt32} (held : table[position]? = some key)
      (beyond : table.size ≤ key.toNat) : At table position (.outOfRange key position table.size)
  | repeated {key : UInt32} {earlier : Nat} (held : table[position]? = some key)
      (before : earlier < position) (same : table[earlier]? = some key) :
      At table position (.repeated key)

def TableFault.First (table : Array UInt32) (fault : TableFault) : Prop :=
  ∃ position, At table position fault ∧ ∀ earlier < position, ∀ other, ¬ At table earlier other

namespace Permutation

open TableFault (At First)

variable {table inverse : Array UInt32} {position : Nat} {fault : TableFault}

/-- A slot is vacant as long as no position up to here has its key. -/
def Vacancies (table : Array UInt32) (position : Nat) (inverse : Array UInt32) : Prop :=
  ∀ slot < table.size, inverse[slot]? = some vacant ↔
    ∀ earlier < position, ∀ key, table[earlier]? = some key → key.toNat ≠ slot

theorem vacancies_start (table : Array UInt32) :
    Vacancies table 0 (Array.replicate table.size vacant) := by
  intro slot bound
  constructor
  · intro _ earlier before
    omega
  · intro _
    simp [bound]

theorem Vacancies.set (vacancies : Vacancies table position inverse)
    (size : inverse.size = table.size) (short : table.size < UInt32.size) {key : UInt32}
    (held : table[position]? = some key) (slot : key.toNat < inverse.size) :
    Vacancies table (position + 1) (inverse.set key.toNat (UInt32.ofNat position)) := by
  obtain ⟨bound, _⟩ := Array.getElem?_eq_some_iff.mp held
  have limit : table.size < 4294967296 := short
  intro place placeBound
  by_cases taken : key.toNat = place
  · subst taken
    constructor
    · intro free
      rw [Array.getElem?_set_self slot, Option.some.injEq] at free
      exact absurd free (ofNat_ne_vacant (by omega))
    · intro unlike
      exact absurd rfl (unlike position (by omega) key held)
  · rw [Array.getElem?_set_ne slot taken, vacancies place placeBound]
    constructor
    · intro unlike earlier before other otherHeld
      by_cases last : earlier = position
      · subst last
        rw [held, Option.some.injEq] at otherHeld
        rw [← otherHeld]
        exact taken
      · exact unlike earlier (by omega) other otherHeld
    · intro unlike earlier before
      exact unlike earlier (by omega)

theorem Vacancies.not_at (vacancies : Vacancies table position inverse) {key : UInt32}
    (held : table[position]? = some key) (inside : key.toNat < table.size)
    (free : inverse[key.toNat]? = some vacant) (fault : TableFault) : ¬ At table position fault := by
  intro wrong
  cases wrong with
  | outOfRange other beyond =>
      rw [held, Option.some.injEq] at other
      subst other
      omega
  | repeated other before same =>
      rw [held, Option.some.injEq] at other
      subst other
      exact (vacancies _ inside).mp free _ before _ same rfl

theorem Vacancies.at_repeated (vacancies : Vacancies table position inverse) {key : UInt32}
    (held : table[position]? = some key) (inside : key.toNat < table.size)
    (taken : inverse[key.toNat]? ≠ some vacant) : At table position (.repeated key) := by
  rw [Ne, vacancies _ inside] at taken
  simp only [Classical.not_forall, not_not] at taken
  obtain ⟨earlier, before, other, same, slot⟩ := taken
  rw [UInt32.toNat_inj.mp slot] at same
  exact .repeated held before same

theorem first_of_fill (short : table.size < UInt32.size) (size : inverse.size = table.size)
    (vacancies : Vacancies table position inverse)
    (faultless : ∀ earlier < position, ∀ other, ¬ At table earlier other)
    (failed : fill table position inverse = .error fault) : First table fault := by
  fun_induction fill table position inverse with
  | case1 position inverse bound key slot free ih =>
      have held : table[position]? = some key := Array.getElem?_eq_getElem bound
      have vacantSlot : inverse[key.toNat]? = some vacant := by
        rw [Array.getElem?_eq_getElem slot, free]
      refine ih ?_ (vacancies.set size short held slot) ?_ failed
      · rw [Array.size_set, size]
      · intro earlier before
        by_cases last : earlier = position
        · subst last
          exact vacancies.not_at held (by omega) vacantSlot
        · exact faultless earlier (by omega)
  | case2 position inverse bound key slot taken =>
      cases failed
      refine ⟨position, ?_, faultless⟩
      apply vacancies.at_repeated (Array.getElem?_eq_getElem bound) (size ▸ slot)
      rw [Array.getElem?_eq_getElem slot, Ne, Option.some.injEq]
      exact taken
  | case3 position inverse bound key beyond =>
      cases failed
      refine ⟨position, .outOfRange (Array.getElem?_eq_getElem bound) ?_, faultless⟩
      rw [← size]
      exact Nat.le_of_not_lt beyond
  | case4 => cases failed

theorem first_of_ofTable (short : table.size < UInt32.size)
    (failed : ofTable table = .error fault) : First table fault := by
  unfold ofTable at failed
  rw [dif_pos short] at failed
  split at failed
  · rename_i filled
    cases failed
    refine first_of_fill short ?_ (vacancies_start table) ?_ filled
    · simp
    · intro earlier before
      omega
  · cases failed

theorem forward_of_ofTable {permutation : Permutation}
    (accepted : ofTable table = .ok permutation) : permutation.forward = table := by
  unfold ofTable at accepted
  split at accepted
  · split at accepted
    · cases accepted
    · cases accepted
      rfl
  · cases accepted

theorem not_at_of_perm (keys : (table.toList.map UInt32.toNat).Perm (List.range table.size))
    (position : Nat) (fault : TableFault) : ¬ At table position fault := by
  intro wrong
  cases wrong with
  | outOfRange held beyond =>
      obtain ⟨bound, rfl⟩ := Array.getElem?_eq_some_iff.mp held
      have member : table[position].toNat ∈ table.toList.map UInt32.toNat :=
        List.mem_map_of_mem (by simp)
      have below := List.mem_range.mp (keys.subset member)
      omega
  | @repeated key earlier held before same =>
      have distinct := List.pairwise_iff_getElem.mp (keys.symm.nodup List.nodup_range)
      obtain ⟨bound, rfl⟩ := Array.getElem?_eq_some_iff.mp held
      obtain ⟨earlierBound, same⟩ := Array.getElem?_eq_some_iff.mp same
      have different := distinct earlier position (by simpa using earlierBound)
        (by simpa using bound) before
      simp [same] at different

theorem forall_count_iff_perm (short : table.size < UInt32.size) :
    (∀ value < table.size, table.count (UInt32.ofNat value) = 1) ↔
      (table.toList.map UInt32.toNat).Perm (List.range table.size) := by
  constructor
  · intro once
    apply List.Perm.symm
    apply (List.nodup_range.subperm _).perm_of_length_le
    · simp
    · intro value member
      have below := List.mem_range.mp member
      have found : UInt32.ofNat value ∈ table :=
        Array.count_pos_iff.mp (by rw [once value below]; decide)
      refine List.mem_map.mpr ⟨_, Array.mem_toList_iff.mpr found, ?_⟩
      exact UInt32.toNat_ofNat_of_lt' (Nat.lt_trans below short)
  · intro keys value below
    have injective : Function.Injective UInt32.toNat := fun _ _ same => UInt32.toNat_inj.mp same
    have counted := List.count_map_of_injective table.toList UInt32.toNat injective
      (UInt32.ofNat value)
    rw [UInt32.toNat_ofNat_of_lt' (Nat.lt_trans below short), keys.count_eq,
      List.count_eq_one_of_mem List.nodup_range (List.mem_range.mpr below)] at counted
    rw [← Array.count_toList, ← counted]

theorem fault_unique {other : TableFault} (first : First table fault) (second : First table other) :
    fault = other := by
  obtain ⟨position, wrong, before⟩ := first
  obtain ⟨place, wrong', before'⟩ := second
  have same : position = place := by
    rcases Nat.lt_trichotomy position place with less | same | less
    · exact absurd wrong (before' position less fault)
    · exact same
    · exact absurd wrong' (before place less other)
  subst same
  cases wrong with
  | outOfRange held beyond =>
      cases wrong' with
      | outOfRange held' _ =>
          rw [held, Option.some.injEq] at held'
          rw [held']
      | repeated held' earlier same =>
          rw [held, Option.some.injEq] at held'
          subst held'
          exact absurd (.outOfRange same beyond) (before _ earlier _)
  | repeated held earlier same =>
      cases wrong' with
      | outOfRange held' beyond =>
          rw [held, Option.some.injEq] at held'
          subst held'
          exact absurd (.outOfRange same beyond) (before _ earlier _)
      | repeated held' _ _ =>
          rw [held, Option.some.injEq] at held'
          rw [held']

theorem perm_of_ofTable (short : table.size < UInt32.size) {permutation : Permutation}
    (accepted : ofTable table = .ok permutation) :
    (table.toList.map UInt32.toNat).Perm (List.range table.size) := by
  obtain rfl := forward_of_ofTable accepted
  exact permutation.forward_perm short

theorem exists_ofTable_iff (short : table.size < UInt32.size) :
    (∃ permutation, ofTable table = .ok permutation) ↔
      (table.toList.map UInt32.toNat).Perm (List.range table.size) := by
  constructor
  · rintro ⟨permutation, accepted⟩
    exact perm_of_ofTable short accepted
  · intro every
    cases accepted : ofTable table with
    | ok permutation => exact ⟨permutation, rfl⟩
    | error fault =>
        obtain ⟨position, wrong, _⟩ := first_of_ofTable short accepted
        exact absurd wrong (not_at_of_perm every position fault)

theorem ofTable_eq_error_iff (short : table.size < UInt32.size) (fault : TableFault) :
    ofTable table = .error fault ↔ First table fault := by
  constructor
  · exact first_of_ofTable short
  · intro first
    cases accepted : ofTable table with
    | ok permutation =>
        obtain ⟨position, wrong, _⟩ := first
        exact absurd wrong (not_at_of_perm (perm_of_ofTable short accepted) position fault)
    | error other => rw [fault_unique first (first_of_ofTable short accepted)]

section Lookups

variable (permutation : Permutation) (short : permutation.forward.size < UInt32.size)

include short

theorem positionOf?_keyOf? {raw : UInt32} (below : raw.toNat < permutation.forward.size) :
    (permutation.keyOf? raw).bind permutation.positionOf? = some raw := by
  obtain ⟨key, held⟩ := Option.isSome_iff_exists.mp ((isSome_keyOf?_iff raw).mpr below)
  rw [held, Option.bind_some]
  exact (keyOf?_eq_some_iff short raw key).mp held

theorem keyOf?_positionOf? {key : UInt32} (below : key.toNat < permutation.forward.size) :
    (permutation.positionOf? key).bind permutation.keyOf? = some key := by
  obtain ⟨raw, held⟩ := Option.isSome_iff_exists.mp ((isSome_positionOf?_iff key).mpr below)
  rw [held, Option.bind_some]
  exact (keyOf?_eq_some_iff short raw key).mpr held

theorem vacant_not_mem_inverse : vacant ∉ permutation.inverse := by
  intro found
  obtain ⟨key, bound, held⟩ := Array.mem_iff_getElem.mp found
  rw [permutation.size_inverse] at bound
  obtain ⟨position, positionBound, rfl⟩ := permutation.exists_position short bound
  have back := permutation.inverse_forward position positionBound
  rw [← permutation.size_inverse] at bound
  rw [Array.getElem?_eq_getElem bound, Option.some.injEq, held] at back
  have limit : permutation.forward.size < 4294967296 := short
  exact ofNat_ne_vacant (by omega) back.symm

end Lookups

/-- A table is accepted just if it holds every key below its size once. The permutation then has
the table and its inverse; otherwise the fault is that of the first position that has one. -/
theorem ofTable_exact (table : Array UInt32) (short : table.size < UInt32.size) :
    ((∃ permutation, ofTable table = .ok permutation) ↔
      ∀ value < table.size, table.count (UInt32.ofNat value) = 1) ∧
    (∀ permutation, ofTable table = .ok permutation →
      (∀ raw : UInt32, permutation.keyOf? raw = table[raw.toNat]?) ∧
      (∀ raw : UInt32, raw.toNat < table.size →
        (permutation.keyOf? raw).bind permutation.positionOf? = some raw) ∧
      (∀ key : UInt32, key.toNat < table.size →
        (permutation.positionOf? key).bind permutation.keyOf? = some key) ∧
      (∀ number : UInt32, table.size ≤ number.toNat →
        permutation.keyOf? number = none ∧ permutation.positionOf? number = none) ∧
      permutation.inverse.size = table.size ∧ vacant ∉ permutation.inverse) ∧
    (∀ fault, ofTable table = .error fault ↔ First table fault) := by
  refine ⟨(exists_ofTable_iff short).trans (forall_count_iff_perm short).symm, ?_,
    ofTable_eq_error_iff short⟩
  intro permutation accepted
  obtain rfl := forward_of_ofTable accepted
  refine ⟨fun _ => rfl, fun _ => permutation.positionOf?_keyOf? short,
    fun _ => permutation.keyOf?_positionOf? short, ?_, permutation.size_inverse,
    permutation.vacant_not_mem_inverse short⟩
  intro number beyond
  constructor
  · exact Array.getElem?_eq_none beyond
  · exact Array.getElem?_eq_none (by rw [permutation.size_inverse]; exact beyond)

theorem table_of_four_exact :
    (#[2, 0, 3, 1] : Array UInt32).size < UInt32.size ∧
      (∃ permutation, ofTable #[2, 0, 3, 1] = .ok permutation ∧
        (permutation.positionOf? 3).bind permutation.keyOf? = some 3) ∧
      (#[2, 0, 2, 4] : Array UInt32).size < UInt32.size ∧
      ofTable #[2, 0, 2, 4] = .error (.repeated 2) := by
  have fits : (#[2, 0, 3, 1] : Array UInt32).size < UInt32.size := by decide
  have fits' : (#[2, 0, 2, 4] : Array UInt32).size < UInt32.size := by decide
  obtain ⟨accepted, inverts, _⟩ := ofTable_exact #[2, 0, 3, 1] fits
  obtain ⟨permutation, found⟩ := accepted.mpr (by decide)
  have back := (inverts permutation found).2.2.1 3 (by decide)
  refine ⟨fits, ⟨permutation, found, back⟩, fits', ?_⟩
  have before : 0 < 2 := by decide
  refine ((ofTable_exact #[2, 0, 2, 4] fits').2.2 _).mpr ⟨2, .repeated rfl before rfl, ?_⟩
  intro earlier before other wrong
  obtain rfl | rfl : earlier = 0 ∨ earlier = 1 := by omega
  · cases wrong with
    | outOfRange held beyond =>
        cases held
        exact absurd beyond (by decide)
    | repeated _ before _ => omega
  · cases wrong with
    | outOfRange held beyond =>
        cases held
        exact absurd beyond (by decide)
    | @repeated _ first held before same =>
        obtain rfl : first = 0 := by omega
        cases held
        cases same

end Permutation

end Cadastre
