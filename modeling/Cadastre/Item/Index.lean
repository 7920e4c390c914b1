import Cadastre.Text.Blank

/-!
Index texts: the decimal number that names an item, as it occurs in file names and in item names.
-/

namespace Cadastre.Item

/-- The text without leading zeros; one that holds nothing else keeps a single zero. -/
def normalizeIndex (text : String) : String :=
  let digits := text.toList.dropWhile (· = '0')
  if digits.isEmpty && !text.isEmpty then "0" else .ofList digits

/-- The index text that an item's name gives between its first and its second `#`. -/
def indexInName? (name : String) : Option String :=
  ((Text.pieces (· = '#') name.toList)[1]?).map fun piece =>
    normalizeIndex (.ofList (Text.trimChars piece))

end Cadastre.Item
