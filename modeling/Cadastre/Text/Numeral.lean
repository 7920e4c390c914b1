/-!
Unsigned numbers as they are read from text: decimal digits, any number of leading zeros, and at
most one plus sign in front.
-/

namespace Cadastre.Text

/-- The number that `cs` denotes, if it is one below `limit`. -/
def readBelow (limit : Nat) (cs : List Char) : Option Nat :=
  let digits := if cs.head? = some '+' then cs.tail else cs
  if !digits.isEmpty && digits.all Char.isDigit then
    let value := Nat.ofDigitChars 10 digits 0
    if value < limit then some value else none
  else none

def readUInt32? (s : String) : Option UInt32 :=
  (readBelow UInt32.size s.toList).map UInt32.ofNat

def readUInt64? (s : String) : Option UInt64 :=
  (readBelow UInt64.size s.toList).map UInt64.ofNat

end Cadastre.Text
