import Cadastre.Grid.Permutation

/-!
Walks over the cells of a partition. The cell that a walk visits first gets the first key, and so
on; a walk is written with one pair of coordinates a line.
-/

namespace Cadastre

structure Point where
  x : UInt32
  y : UInt32
  deriving DecidableEq, Repr

abbrev Walk := List Point

inductive WalkFault where
  | outsideWidth (point : Point) (width : UInt32)
  | outsideWalk (point : Point) (length : Nat)
  | visitedTwice (point : Point)
  | table (fault : TableFault)
  | unreadableLine (number : Nat)

namespace WalkFault

def message : WalkFault → String
  | outsideWidth point width => s!"point ({point.x}, {point.y}) outside width {width}"
  | outsideWalk point length => s!"point ({point.x}, {point.y}) outside path of {length}"
  | visitedTwice point => s!"point ({point.x}, {point.y}) visited twice"
  | table fault => fault.message
  | unreadableLine number => s!"line {number}: expected `x y`"

def fault (reason : WalkFault) : Fault := .invalidPermutation reason.message

end WalkFault

namespace Point

/-- Raw position of the cell in a partition of this width. -/
def position (point : Point) (width : UInt32) : Nat :=
  point.y.toNat * width.toNat + point.x.toNat

end Point

namespace Walk

/-- Enters each visited cell's step, counted from `step`, into the slot of its position. -/
def enter (width : UInt32) (length step : Nat) (table : Array UInt32) :
    Walk → Except WalkFault (Array UInt32)
  | [] => .ok table
  | point :: rest =>
    if width ≤ point.x then .error (.outsideWidth point width)
    else if slot : point.position width < table.size then
      if table[point.position width] = Permutation.vacant then
        enter width length (step + 1) (table.set (point.position width) (UInt32.ofNat step)) rest
      else .error (.visitedTwice point)
    else .error (.outsideWalk point length)

/-- The permutation of a walk that visits each cell of some first rows once. -/
def permutation (walk : Walk) (width : UInt32) : Except WalkFault Permutation :=
  match enter width walk.length 0 (Array.replicate walk.length Permutation.vacant) walk with
  | .error fault => .error fault
  | .ok table =>
    match Permutation.ofTable table with
    | .ok permutation => .ok permutation
    | .error fault => .error (.table fault)

def point? (line : List Char) : Option Point :=
  match Text.words line with
  | x :: y :: _ =>
    match Text.readBelow UInt32.size x, Text.readBelow UInt32.size y with
    | some x, some y => some ⟨UInt32.ofNat x, UInt32.ofNat y⟩
    | _, _ => none
  | _ => none

/-- The points on lines numbered from `number` on; lines of blanks only are passed over. -/
def readFrom (number : Nat) : List (List Char) → Except WalkFault Walk
  | [] => .ok []
  | line :: rest =>
    if line.all Text.isBlank then readFrom (number + 1) rest
    else
      match point? line with
      | none => .error (.unreadableLine number)
      | some point => (readFrom (number + 1) rest).map (point :: ·)

def read (text : String) : Except WalkFault Walk :=
  readFrom 1 (Text.lines text.toList)

end Walk

def Permutation.ofWalkText (text : String) (width : UInt32) : Except Fault Permutation :=
  ((Walk.read text).bind fun walk => walk.permutation width).mapError WalkFault.fault

end Cadastre
