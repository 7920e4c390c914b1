import Cadastre.Json.Basic
import Cadastre.Number.Shortest

/-!
JSON values as text: compactly, or one member a line with two blanks for each level. Only quotes,
backslashes and the control characters below the space are escaped.
-/

namespace Cadastre.Json

def escape (c : Char) : List Char :=
  match c with
  | '"' => ['\\', '"']
  | '\\' => ['\\', '\\']
  | '\x08' => ['\\', 'b']
  | '\x0c' => ['\\', 'f']
  | '\n' => ['\\', 'n']
  | '\r' => ['\\', 'r']
  | '\t' => ['\\', 't']
  | c =>
    if c.toNat < 0x20 then
      ['\\', 'u', '0', '0', Nat.digitChar (c.toNat / 16), Nat.digitChar (c.toNat % 16)]
    else [c]

def quote (s : String) : List Char :=
  ['"'] ++ s.toList.flatMap escape ++ ['"']

def Number.text : Number → List Char
  | .integer value => (toString value).toList
  | .double value => value.text

def commaSeparated (parts : List (List Char)) : List Char :=
  List.intercalate [','] parts

mutual

def compact : Json → List Char
  | null => "null".toList
  | bool value => (if value then "true" else "false").toList
  | number value => value.text
  | string value => quote value
  | array items => ['['] ++ commaSeparated (compactItems items) ++ [']']
  | object members => ['\x7b'] ++ commaSeparated (compactMembers members) ++ ['\x7d']

def compactItems : List Json → List (List Char)
  | [] => []
  | item :: rest => compact item :: compactItems rest

def compactMembers : List (String × Json) → List (List Char)
  | [] => []
  | (key, value) :: rest => (quote key ++ [':'] ++ compact value) :: compactMembers rest

end

/-- A bracketed list with one part a line, indented by `depth` levels; nothing between the
brackets if there are no parts. -/
def block (opening closing : Char) (depth : Nat) (parts : List (List Char)) : List Char :=
  let margin (levels : Nat) : List Char := '\n' :: List.replicate (2 * levels) ' '
  if parts.isEmpty then [opening, closing]
  else
    [opening] ++ margin (depth + 1) ++ List.intercalate (',' :: margin (depth + 1)) parts
      ++ margin depth ++ [closing]

mutual

def pretty (depth : Nat) : Json → List Char
  | null => compact null
  | bool value => compact (bool value)
  | number value => compact (number value)
  | string value => compact (string value)
  | array items => block '[' ']' depth (prettyItems (depth + 1) items)
  | object members => block '\x7b' '\x7d' depth (prettyMembers (depth + 1) members)

def prettyItems (depth : Nat) : List Json → List (List Char)
  | [] => []
  | item :: rest => pretty depth item :: prettyItems depth rest

def prettyMembers (depth : Nat) : List (String × Json) → List (List Char)
  | [] => []
  | (key, value) :: rest =>
    (quote key ++ [':', ' '] ++ pretty depth value) :: prettyMembers depth rest

end

def write (value : Json) : String :=
  .ofList value.compact

def writePretty (value : Json) : String :=
  .ofList (value.pretty 0)

end Cadastre.Json
