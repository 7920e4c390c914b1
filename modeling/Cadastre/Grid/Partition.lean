import Cadastre.Fault
import Cadastre.Text.Blank
import Cadastre.Text.Numeral

/-!
Partitions of the grid: rectangles addressed by row and column, numbered row by row, and written
as tags such as `[2,3]`.
-/

namespace Cadastre

/-- Position of a cell in the whole grid, row by row. -/
abbrev GlobalIndex := UInt64

/-- Slot of a cell inside its partition, in the order of the permutation. -/
abbrev LocalKey := UInt32

structure Partition where
  row : UInt32
  col : UInt32
  deriving DecidableEq, Repr

namespace Partition

/-- The partition with this number, where each row has `perRow` of them. -/
def ofOrdinal (ordinal perRow : UInt32) : Partition :=
  ⟨ordinal / perRow, ordinal % perRow⟩

def ordinal (partition : Partition) (perRow : UInt32) : UInt32 :=
  partition.row * perRow + partition.col

def tag (partition : Partition) : String :=
  s!"[{partition.row},{partition.col}]"

/-- Row first, then column. -/
def precedes (a b : Partition) : Bool :=
  a.row < b.row || (a.row = b.row && a.col ≤ b.col)

/-- What stands between a first `[` and a last `]`. -/
def inBrackets? (cs : List Char) : Option (List Char) :=
  match cs with
  | '[' :: rest => if rest.getLast? = some ']' then some rest.dropLast else none
  | _ => none

/-- The text before the first comma and the text behind it. -/
def atComma? (cs : List Char) : Option (List Char × List Char) :=
  match cs.dropWhile (· ≠ ',') with
  | [] => none
  | _ :: after => some (cs.takeWhile (· ≠ ','), after)

def number? (cs : List Char) : Option UInt32 :=
  (Text.readBelow UInt32.size (Text.trimChars cs)).map UInt32.ofNat

/-- The partition that a tag names. Blanks may surround the brackets and the two numbers. -/
def ofTag? (text : String) : Option Partition :=
  match (inBrackets? (Text.trimChars text.toList)).bind atComma? with
  | none => none
  | some (row, col) =>
    match number? row, number? col with
    | some row, some col => some ⟨row, col⟩
    | _, _ => none

def ofTag (text : String) : Except Fault Partition :=
  match ofTag? text with
  | some partition => .ok partition
  | none => .error (.invalidPartitionTag text)

end Partition

end Cadastre
