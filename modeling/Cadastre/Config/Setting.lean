import Cadastre.Json.Form

/-!
Settings before anyone has asked for one of them: what a settings file and the environment say, by
name. Main definitions: `overlay`, which lays one table over another, and `document`, what the
reader of a section sees.
-/

namespace Cadastre

inductive Setting where
  | flag (value : Bool)
  | signed (value : Int)
  | unsigned (value : Nat)
  /-- A number that is not whole. As no setting takes one, its value is not kept. -/
  | decimal
  /-- A single quoted character, which most readers take for a text. -/
  | letter (value : Char)
  | text (value : String)
  | list (items : List Setting)
  | table (members : List (String × Setting))
  deriving Repr

namespace Setting

abbrev Members := List (String × Setting)

namespace Members

def get? (members : Members) (name : String) : Option Setting :=
  (members.find? fun member => member.1 = name).map Prod.snd

/-- Sets a name, in place if it is there already. -/
def put (members : Members) (name : String) (value : Setting) : Members :=
  match members with
  | [] => [(name, value)]
  | (first, held) :: rest =>
    if first = name then (first, value) :: rest else (first, held) :: put rest name value

@[simp] theorem get?_put_self (members : Members) (name : String) (value : Setting) :
    (members.put name value).get? name = some value := by
  induction members with
  | nil => simp [put, get?]
  | cons member rest ih =>
    simp only [put]
    split
    · rename_i same
      simp [get?, same]
    · rename_i different
      simpa [get?, different] using ih

end Members

def members : Setting → Members
  | table members => members
  | _ => []

mutual

/-- The upper setting over a lower one: tables are joined member by member, and in place of
anything else the upper one stands. -/
def overlay (below : Setting) : Setting → Setting
  | table above =>
    match below with
    | table members => table (overlayMembers members above)
    | _ => table above
  | above => above

def overlayMembers (below : Members) : List (String × Setting) → Members
  | [] => below
  | (name, value) :: rest =>
    let joined :=
      match below.get? name with
      | some held => overlay held value
      | none => value
    overlayMembers (below.put name joined) rest

end

/-- A table with one setting at the end of a path. -/
def nested : List String → Setting → Setting
  | [], value => value
  | name :: path, value => table [(name, nested path value)]

/-- A reserved name: a table with such a member stands for the member's value. -/
def valueMark : String := "___figment_value_value"

/-- A reserved name: such a member numbers its table, and is no setting. -/
def numberMark : String := "___figment_value_id"

def isSigned : Setting → Bool
  | signed _ => true
  | _ => false

mutual

/-- The setting with every table resolved that has a reserved name, if all numbers of tables are
whole. -/
def resolve? : Setting → Option Setting
  | list items => (resolveItems? items).map list
  | table members => do
    let found ← resolveMembers? members
    pure ((found.get? valueMark).getD (table (found.filter fun member => member.1 ≠ numberMark)))
  | leaf => some leaf

def resolveItems? : List Setting → Option (List Setting)
  | [] => some []
  | item :: rest =>
    match resolve? item, resolveItems? rest with
    | some item, some rest => some (item :: rest)
    | _, _ => none

def resolveMembers? : List (String × Setting) → Option Members
  | [] => some []
  | (name, value) :: rest =>
    if name = numberMark && !value.isSigned then none
    else
      match resolve? value, resolveMembers? rest with
      | some value, some rest => some ((name, value) :: rest)
      | _, _ => none

end

section Documents

open Json

mutual

/-- The setting as a reader of documents sees it. What `letter` makes of a single character is up
to the reader. -/
def documentWith (letter : Char → Document) : Setting → Document
  | flag value => .bool value
  | signed value => .number (some (.integer value))
  | unsigned value => .number (some (.integer value))
  | decimal => .number none
  | .letter value => letter value
  | text value => .string (some value)
  | list items => .array (documentItems letter items)
  | table members => .object (documentMembers letter members)

def documentItems (letter : Char → Document) : List Setting → List Document
  | [] => []
  | item :: rest => documentWith letter item :: documentItems letter rest

def documentMembers (letter : Char → Document) :
    List (String × Setting) → List (Key × Document)
  | [] => []
  | (name, value) :: rest => (.plain name, documentWith letter value) :: documentMembers letter rest

end

/-- The document in which a single character is a text. -/
def document : Setting → Document :=
  documentWith fun value => .string (some (String.singleton value))

/-- Changes the values of the fields, each by its name. What a list has behind the last field is
left out. -/
def changeFields (fields : List Field) (change : String → Setting → Setting) : Setting → Setting
  | list items =>
    list (((fields.map Field.name).zip items).map fun (name, value) => change name value)
  | table members => table (members.map fun (name, value) => (name, change name value))
  | leaf => leaf

/-- The setting without what a list has behind the last field. -/
def bounded (fields : List Field) : Setting → Setting :=
  changeFields fields fun _ value => value

def changeItems (change : Setting → Setting) : Setting → Setting
  | list items => list (items.map change)
  | other => other

end Documents

end Setting

end Cadastre
