/-!
White space as the Unicode property of that name defines it, and the three ways of cutting text
that rest on it or on line ends: `trim`, `words` and `lines`.
-/

namespace Cadastre.Text

/-- The code points of the White_Space property, as closed ranges. -/
def blankRanges : List (Nat × Nat) :=
  [(0x9, 0xd), (0x20, 0x20), (0x85, 0x85), (0xa0, 0xa0), (0x1680, 0x1680), (0x2000, 0x200a),
    (0x2028, 0x2029), (0x202f, 0x202f), (0x205f, 0x205f), (0x3000, 0x3000)]

def isBlank (c : Char) : Bool :=
  blankRanges.any fun (first, last) => decide (first ≤ c.toNat) && decide (c.toNat ≤ last)

def trimChars (cs : List Char) : List Char :=
  ((cs.dropWhile isBlank).reverse.dropWhile isBlank).reverse

def trim (s : String) : String :=
  .ofList (trimChars s.toList)

/-- The pieces between separators: one more than there are separators. -/
def pieces (isSeparator : Char → Bool) (cs : List Char) : List (List Char) :=
  cs.foldr
    (fun c found =>
      if isSeparator c then [] :: found
      else
        match found with
        | [] => [[c]]
        | piece :: rest => (c :: piece) :: rest)
    [[]]

/-- The maximal runs of characters that are not blank. -/
def words (cs : List Char) : List (List Char) :=
  (pieces isBlank cs).filter fun piece => !piece.isEmpty

/-- A line without the carriage return that may precede its line end. -/
def dropReturn (line : List Char) : List Char :=
  if line.getLast? = some '\r' then line.dropLast else line

/-- The lines of a text. A line end closes a line, so that the text after the last one is a line
only if there is some. -/
def lines (cs : List Char) : List (List Char) :=
  match (pieces (· = '\n') cs).reverse with
  | [] => []
  | [] :: closed => (closed.map dropReturn).reverse
  | last :: closed => (last :: closed.map dropReturn).reverse

end Cadastre.Text
