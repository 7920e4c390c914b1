import Cadastre.Number.Double

/-!
JSON values. An object is a list of members in the order in which they are written; a free-form
object has its keys in strictly ascending order, which `Members.put` keeps.
-/

namespace Cadastre

/-- Integers stay apart from other numbers. -/
inductive Json.Number where
  | integer (value : Int)
  | double (value : Double)
  deriving DecidableEq, Repr

inductive Json where
  | null
  | bool (value : Bool)
  | number (value : Json.Number)
  | string (value : String)
  | array (items : List Json)
  | object (members : List (String × Json))
  deriving Repr

namespace Json

abbrev Members := List (String × Json)

instance : Inhabited Json := ⟨null⟩

def nat (n : Nat) : Json := number (.integer n)

namespace Members

def get? (members : Members) (key : String) : Option Json :=
  (members.find? fun member => member.1 = key).map Prod.snd

/-- Sets a key of a free-form object, in place if it is there already. -/
def put (members : Members) (key : String) (value : Json) : Members :=
  match members with
  | [] => [(key, value)]
  | (first, held) :: rest =>
    if key < first then (key, value) :: (first, held) :: rest
    else if key = first then (key, value) :: rest
    else (first, held) :: put rest key value

def keys (members : Members) : List String :=
  members.map Prod.fst

/-- The free-form object that holds each key's last value. -/
def ofList (members : Members) : Members :=
  members.foldl (fun held member => held.put member.1 member.2) []

@[simp] theorem get?_put_self (members : Members) (key : String) (value : Json) :
    (members.put key value).get? key = some value := by
  induction members with
  | nil => simp [put, get?]
  | cons member rest ih =>
    simp only [put]
    split
    · simp [get?]
    · split
      · simp [get?]
      · rename_i different
        simp only [get?, List.find?_cons, Ne.symm different, decide_false]
        exact ih

theorem get?_put_of_ne (members : Members) {key other : String} (value : Json)
    (different : other ≠ key) : (members.put key value).get? other = members.get? other := by
  have apart : ¬ key = other := fun same => different same.symm
  induction members with
  | nil => simp [put, get?, apart]
  | cons member rest ih =>
    simp only [put]
    split
    · simp [get?, apart]
    · split
      · rename_i same
        simp [get?, ← same, apart]
      · by_cases held : member.1 = other
        · simp [get?, held]
        · simpa [get?, held] using ih

end Members

mutual

def sorted : Json → Json
  | array items => array (sortedItems items)
  | object members => object (Members.ofList (sortedMembers members))
  | leaf => leaf

def sortedItems : List Json → List Json
  | [] => []
  | item :: rest => sorted item :: sortedItems rest

def sortedMembers : List (String × Json) → List (String × Json)
  | [] => []
  | (key, value) :: rest => (key, sorted value) :: sortedMembers rest

end

end Json

end Cadastre
