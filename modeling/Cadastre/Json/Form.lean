import Cadastre.Json.Document

/-!
Documents that fill in a fixed list of fields: by name in an object, whose other members are
overlooked, or by position in an array, which may end early.
-/

namespace Cadastre.Json

/-- A field goes by a name and perhaps by others. -/
structure Field where
  name : String
  aliases : List String := []

def Field.answersTo (field : Field) (key : String) : Bool :=
  key = field.name || field.aliases.contains key

structure Form where
  byPosition : Bool
  entries : List (String × Document)

namespace Form

/-- Of the members, those that a field answers to, under its name. -/
def known (fields : List Field) (members : List (String × Document)) : List (String × Document) :=
  members.filterMap fun (key, value) =>
    (fields.find? fun field => field.answersTo key).map fun field => (field.name, value)

def unknown (fields : List Field) (members : List (String × Document)) :
    List (String × Document) :=
  members.filter fun (key, _) => !fields.any fun field => field.answersTo key

def isRepeated (entries : List (String × Document)) (name : String) : Bool :=
  1 < (entries.filter fun entry => entry.1 = name).length

/-- A form filled in by name; no field may be given twice. -/
def ofMembers? (fields : List Field) (members : List (String × Document)) : Option Form :=
  let entries := known fields members
  if fields.any fun field => isRepeated entries field.name then none
  else some ⟨false, entries⟩

def ofDocument? (fields : List Field) : Document → Option Form
  | .array items =>
    if items.length ≤ fields.length then some ⟨true, (fields.map Field.name).zip items⟩ else none
  | document => document.members?.bind (ofMembers? fields)

def get? (form : Form) (name : String) : Option Document :=
  (form.entries.find? fun entry => entry.1 = name).map Prod.snd

/-- The members that no field answers to, as a free-form object whose values nest at most
`depth` levels. -/
def extra? (fields : List Field) (depth : Nat) (members : List (String × Document)) :
    Option Members := do
  let members ← (unknown fields members).mapM fun member =>
    (member.2.settle? depth).map fun value => (member.1, value)
  pure (Members.ofList members)

variable {α : Type}

def required (form : Form) (name : String) (read : Document → Option α) : Option α :=
  (form.get? name).bind read

/-- A field that may be missing, and then has a default. -/
def orDefault (form : Form) (name : String) (read : Document → Option α) (default : α) :
    Option α :=
  match form.get? name with
  | none => some default
  | some document => read document

/-- A field that may be `null` anywhere and missing only from an object. -/
def optional (form : Form) (name : String) (read : Document → Option α) : Option (Option α) :=
  match form.get? name with
  | none => if form.byPosition then none else some none
  | some document => document.nullable? read

end Form

end Cadastre.Json
