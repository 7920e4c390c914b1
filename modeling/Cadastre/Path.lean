/-!
File paths as text, with `/` between their components.
-/

namespace Cadastre.Path

/-- The path of `part` seen from `base`; an absolute part stands for itself. -/
def join (base part : String) : String :=
  if part.startsWith "/" || base.isEmpty then part
  else if base.endsWith "/" then base ++ part
  else base ++ "/" ++ part

/-- The components of a path. Points for the same directory count only in front. -/
def components (path : String) : List String :=
  match path.splitOn "/" with
  | [] => []
  | first :: rest =>
    [first].filter (!·.isEmpty) ++ rest.filter fun name => !name.isEmpty && name ≠ "."

/-- The directories that hold this path, from the innermost to the outermost; the root and the
empty path have none. The outermost is the root, or the empty path where there is no root. -/
def above (path : String) : List String :=
  let names := components path
  let root := if path.startsWith "/" then "/" else ""
  (List.range names.length).reverse.map fun count =>
    root ++ String.intercalate "/" (names.take count)

def parent? (path : String) : Option String := (above path).head?

def fileName? (path : String) : Option String :=
  (components path).getLast?.filter fun name => name ≠ "." && name ≠ ".."

/-- Hexadecimal digits in the groups in which random names are often written. -/
def dashed (digits : String) : String :=
  String.intercalate "-" ([(0, 8), (8, 4), (12, 4), (16, 4), (20, 12)].map fun (start, count) =>
    .ofList ((digits.toList.drop start).take count))

/-- Where a file's draft is written: beside the file, under its name and a random one. -/
def draft (path digits : String) : String :=
  let mark := ".tmp." ++ dashed digits
  match fileName? path with
  | some name => join ((parent? path).getD "") (name ++ mark)
  | none => join path mark

end Cadastre.Path
