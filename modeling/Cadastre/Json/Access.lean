import Cadastre.Json.Document

/-!
Looking into values of which the form is not known: whatever is not there is empty, zero or null.
-/

namespace Cadastre.Json

mutual

/-- The value of a document with its members in the order in which they are written. -/
def ofDocument : Document → Json
  | .null => null
  | .bool value => bool value
  | .number value => value.elim null number
  | .string value => value.elim null string
  | .array items => array (ofDocumentItems items)
  | .object members => object (ofDocumentMembers members)

def ofDocumentItems : List Document → List Json
  | [] => []
  | item :: rest => ofDocument item :: ofDocumentItems rest

def ofDocumentMembers : List (Key × Document) → Members
  | [] => []
  | (key, value) :: rest => (key.text.getD "", ofDocument value) :: ofDocumentMembers rest

end

/-- A member of an object, if it is there and not null. -/
def member? (value : Json) (key : String) : Option Json :=
  match value with
  | object members =>
    match Members.get? members key with
    | some null => none
    | found => found
  | _ => none

instance : GetElem Json String Json fun _ _ => True where
  getElem value key _ := (value.member? key).getD null

def items : Json → List Json
  | array items => items
  | _ => []

def members : Json → Members
  | object members => members
  | _ => []

def toInt : Json → Int
  | number (.integer value) => value
  | _ => 0

def toNat (value : Json) : Nat := value.toInt.toNat

def isTrue : Json → Bool
  | bool value => value
  | _ => false

mutual

def mapStrings (f : String → String) : Json → Json
  | string text => string (f text)
  | array items => array (mapItems f items)
  | object members => object (mapMembers f members)
  | leaf => leaf

def mapItems (f : String → String) : List Json → List Json
  | [] => []
  | item :: rest => item.mapStrings f :: mapItems f rest

def mapMembers (f : String → String) : List (String × Json) → Members
  | [] => []
  | (key, value) :: rest => (f key, value.mapStrings f) :: mapMembers f rest

end

end Cadastre.Json
