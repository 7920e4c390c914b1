import Cadastre.Grid.Partition
import Cadastre.Json.Reader

/-!
The order in which the cells of a partition are numbered: a bijection from raw positions, row by
row, to local keys. It comes from a table of keys or from a walk over the cells. The main
statement is `inverse_of_fill`: the second table, filled while the first is checked, inverts it.
-/

namespace Cadastre

/-- Both directions of the bijection as tables. -/
structure Permutation where
  forward : Array UInt32
  inverse : Array UInt32
  size_inverse : inverse.size = forward.size
  inverse_forward : ∀ position, (bound : position < forward.size) →
    inverse[forward[position].toNat]? = some (UInt32.ofNat position)

inductive TableFault where
  | tooLong (size : Nat)
  | outOfRange (key : UInt32) (position size : Nat)
  | repeated (key : UInt32)
  deriving DecidableEq, Repr

namespace TableFault

def message : TableFault → String
  | tooLong size => s!"table too long: {size}"
  | outOfRange key position size => s!"key {key} at position {position} exceeds {size}"
  | repeated key => s!"key {key} appears more than once"

def fault (reason : TableFault) : Fault := .invalidPermutation reason.message

end TableFault

namespace Permutation

/-- Marks a slot of the inverse that no position has taken yet. -/
def vacant : UInt32 := 0xffffffff

/-- Enters the positions from `position` on into the slots of their keys. -/
def fill (table : Array UInt32) (position : Nat) (inverse : Array UInt32) :
    Except TableFault (Array UInt32) :=
  if bound : position < table.size then
    let key := table[position]
    if slot : key.toNat < inverse.size then
      if inverse[key.toNat] = vacant then
        fill table (position + 1) (inverse.set key.toNat (UInt32.ofNat position))
      else .error (.repeated key)
    else .error (.outOfRange key position table.size)
  else .ok inverse
  termination_by table.size - position

theorem ofNat_ne_vacant {position : Nat} (bound : position < 0xffffffff) :
    UInt32.ofNat position ≠ vacant := by
  intro same
  have := congrArg UInt32.toNat same
  simp [vacant] at this
  omega

/-- What `fill` returns has the size of what it was given and holds every position of the table
in the slot of its key. -/
theorem inverse_of_fill (table : Array UInt32) (short : table.size < UInt32.size) (position : Nat)
    (inverse filled : Array UInt32) (done : fill table position inverse = .ok filled)
    (before : ∀ earlier, (bound : earlier < table.size) → earlier < position →
      inverse[table[earlier].toNat]? = some (UInt32.ofNat earlier)) :
    filled.size = inverse.size ∧ ∀ place, (bound : place < table.size) →
      filled[table[place].toNat]? = some (UInt32.ofNat place) := by
  fun_induction fill table position inverse with
  | case1 position inverse bound key slot free ih =>
    have step := ih done (by
      intro earlier earlierBound earlierLess
      by_cases last : earlier = position
      · subst last
        simp [key]
      · have known := before earlier earlierBound (by omega)
        have apart : key.toNat ≠ table[earlier].toNat := by
          intro same
          rw [← same, Array.getElem?_eq_getElem slot] at known
          have vacantHere : UInt32.ofNat earlier = vacant := by
            rw [← Option.some.inj known]; exact free
          have short' : table.size < 4294967296 := short
          exact ofNat_ne_vacant (by omega) vacantHere
        rw [Array.getElem?_set_ne _ apart]
        exact known)
    exact ⟨by simpa using step.1, step.2⟩
  | case2 => cases done
  | case3 => cases done
  | case4 position inverse bound =>
    simp only [Except.ok.injEq] at done
    subst done
    exact ⟨rfl, fun place placeBound => before place placeBound (by omega)⟩

/-- The permutation with this table of keys, which must hold each key below its size once. -/
def ofTable (table : Array UInt32) : Except TableFault Permutation :=
  if short : table.size < UInt32.size then
    match filled : fill table 0 (Array.replicate table.size vacant) with
    | .error fault => .error fault
    | .ok inverse =>
      have facts := inverse_of_fill table short 0 _ inverse filled (by intros; omega)
      .ok ⟨table, inverse, by simpa using facts.1, facts.2⟩
  else .error (.tooLong table.size)

def identity (size : UInt32) : Permutation :=
  let table := (Array.range size.toNat).map UInt32.ofNat
  ⟨table, table, rfl, by
    intro position bound
    simp only [table, Array.size_map, Array.size_range] at bound
    have small := size.toNat_lt
    have same : position % 4294967296 = position := by omega
    simp [table, same, bound]⟩

def size (permutation : Permutation) : Nat := permutation.forward.size

def keyOf? (permutation : Permutation) (position : UInt32) : Option UInt32 :=
  permutation.forward[position.toNat]?

def positionOf? (permutation : Permutation) (key : UInt32) : Option UInt32 :=
  permutation.inverse[key.toNat]?

/-- The permutation whose table is a JSON array of keys. -/
def ofJson (bytes : Bytes) : Except Fault Permutation :=
  match (Json.Document.read? bytes).bind (Json.Document.list? (Json.Document.natural? UInt32.size))
    with
  | none => .error (.serialization Json.unreadable)
  | some keys => (ofTable (keys.map UInt32.ofNat).toArray).mapError TableFault.fault

/-- The permutation in a file, given what reading the file led to. -/
def load (path : String) (contents : Except String Bytes) : Except Fault Permutation :=
  match contents with
  | .error reason => .error (.invalidPermutation s!"failed to read {path}: {reason}")
  | .ok bytes => ofJson bytes

def toJson (permutation : Permutation) : Json :=
  .array (permutation.forward.toList.map fun key => Json.nat key.toNat)

end Permutation

end Cadastre
