import Cadastre.Json.Basic

/-!
What a JSON text says before anyone has looked at its leaves. A string that is no text and a
number that is too large are grammatical, and are refused only where they are asked for; objects
keep repeated keys.
-/

namespace Cadastre.Json

structure Key where
  text : Option String
  escaped : Bool

def Key.plain (text : String) : Key := ⟨some text, false⟩

inductive Document where
  | null
  | bool (value : Bool)
  | number (value : Option Number)
  | string (value : Option String)
  | array (items : List Document)
  | object (members : List (Key × Document))

namespace Document

instance : Inhabited Document := ⟨null⟩

mutual

/-- The value of a document, if all of it is readable and it nests at most `depth` levels. A
repeated key takes its last value. -/
def settle? (depth : Nat) : Document → Option Json
  | null => some .null
  | bool value => some (.bool value)
  | number value => value.map .number
  | string value => value.map .string
  | array items =>
    match depth with
    | 0 => none
    | depth + 1 => (settleItems? depth items).map .array
  | object members =>
    match depth with
    | 0 => none
    | depth + 1 => (settleMembers? depth members).map fun found => .object (Members.ofList found)

def settleItems? (depth : Nat) : List Document → Option (List Json)
  | [] => some []
  | item :: rest =>
    match settle? depth item, settleItems? depth rest with
    | some value, some values => some (value :: values)
    | _, _ => none

def settleMembers? (depth : Nat) : List (Key × Document) → Option (List (String × Json))
  | [] => some []
  | (key, item) :: rest =>
    match key.text, settle? depth item, settleMembers? depth rest with
    | some key, some value, some values => some ((key, value) :: values)
    | _, _, _ => none

end

mutual

/-- A value as a document that says just that value. -/
def ofJson : Json → Document
  | .null => null
  | .bool value => bool value
  | .number value => number (some value)
  | .string value => string (some value)
  | .array items => array (ofItems items)
  | .object members => object (ofMembers members)

def ofItems : List Json → List Document
  | [] => []
  | item :: rest => ofJson item :: ofItems rest

def ofMembers : List (String × Json) → List (Key × Document)
  | [] => []
  | (key, value) :: rest => (.plain key, ofJson value) :: ofMembers rest

end

def text? : Document → Option String
  | string value => value
  | _ => none

def flag? : Document → Option Bool
  | bool value => some value
  | _ => none

/-- An integer from zero up to below `limit`. -/
def natural? (limit : Nat) : Document → Option Nat
  | number (some (.integer value)) => if 0 ≤ value ∧ value < limit then some value.toNat else none
  | _ => none

def list? {α : Type} (item? : Document → Option α) : Document → Option (List α)
  | array items => items.mapM item?
  | _ => none

/-- The members of an object whose keys are all readable. -/
def members? : Document → Option (List (String × Document))
  | object members => members.mapM fun (key, value) => key.text.map fun key => (key, value)
  | _ => none

/-- The members of an object whose keys are numbers below `limit`: digits without escapes and
without needless zeros. -/
def numbered? (limit : Nat) : Document → Option (List (Nat × Document))
  | object members => members.mapM fun (key, value) =>
    match key.escaped, key.text.map String.toList with
    | false, some digits =>
      let number := Nat.ofDigitChars 10 digits 0
      if !digits.isEmpty && digits.all Char.isDigit && (digits.head? ≠ some '0' || digits = ['0'])
        && number < limit then some (number, value)
      else none
    | _, _ => none
  | _ => none

def nullable? {α : Type} (item? : Document → Option α) : Document → Option (Option α)
  | null => some none
  | document => (item? document).map some

end Document

end Cadastre.Json
