import Cadastre.Config.Setting

/-!
Tables while a settings file is read. A table is defined once: by a header, by the dotted keys that
lead through it, or as a value; what may still be added to it depends on which it was.
-/

namespace Cadastre.Toml

/-- How a table came to be: on the way to a table of a header, on the way of a dotted key, or as
the table of a header itself. -/
inductive Origin where
  | passed
  | dotted
  | headed
  deriving DecidableEq, Repr

inductive Node where
  | value (value : Setting)
  | table (origin : Origin) (members : List (String × Node))
  /-- The tables of a list, the last one first. Only that one can still grow. -/
  | tables (last : List (String × Node)) (earlier : List (List (String × Node)))

abbrev Nodes := List (String × Node)

namespace Nodes

def get? (nodes : Nodes) (key : String) : Option Node :=
  (nodes.find? fun node => node.1 = key).map Prod.snd

/-- Sets a key, in place if it is there already. -/
def put (nodes : Nodes) (key : String) (node : Node) : Nodes :=
  if nodes.any fun held => held.1 = key then
    nodes.map fun held => if held.1 = key then (key, node) else held
  else nodes ++ [(key, node)]

end Nodes

abbrev Change := Origin → Nodes → Option Nodes

/-- Changes the table at the end of a path, creating those that the path lacks. A dotted key leads
through no table that has a header of its own. -/
def changeAt (dotted : Bool) (change : Change) : List String → Change
  | [], origin, nodes => change origin nodes
  | key :: path, _, nodes =>
    match nodes.get? key with
    | none =>
      let origin := if dotted then .dotted else .passed
      (changeAt dotted change path origin []).map fun inner =>
        nodes.put key (.table origin inner)
    | some (.value _) => none
    | some (.tables last earlier) =>
      (changeAt dotted change path .headed last).map fun inner =>
        nodes.put key (.tables inner earlier)
    | some (.table origin inner) =>
      if dotted && origin = .headed then none
      else
        (changeAt dotted change path origin inner).map fun inner =>
          nodes.put key (.table origin inner)

/-- Adds a value under a key that is new. Behind dots, the table is to be one that dotted keys
made. -/
def addValue (behindDots : Bool) (key : String) (value : Setting) : Change := fun origin nodes =>
  if behindDots && origin ≠ .dotted then none
  else if (nodes.get? key).isSome then none
  else some (nodes.put key (.value value))

/-- Adds a value under a dotted key, its last part apart. -/
def assign (path : List String) (key : String) (value : Setting) : Change :=
  changeAt true (addValue (!path.isEmpty) key value) path

def openTable (key : String) : Change := fun _ nodes =>
  match nodes.get? key with
  | none => some (nodes.put key (.table .headed []))
  | some (.table .passed inner) => some (nodes.put key (.table .headed inner))
  | some _ => none

/-- Appends a table to the list that a header in double brackets names. -/
def appendTable (key : String) : Change := fun _ nodes =>
  match nodes.get? key with
  | none => some (nodes.put key (.tables [] []))
  | some (.tables last earlier) => some (nodes.put key (.tables [] (last :: earlier)))
  | some _ => none

mutual

def Node.setting : Node → Setting
  | .value value => value
  | .table _ members => .table (settingsOf members)
  | .tables last earlier => .list (.table (settingsOf last) :: tableSettings earlier).reverse

def settingsOf : List (String × Node) → Setting.Members
  | [] => []
  | (key, node) :: rest => (key, node.setting) :: settingsOf rest

def tableSettings : List (List (String × Node)) → List Setting
  | [] => []
  | table :: rest => .table (settingsOf table) :: tableSettings rest

end

end Cadastre.Toml
