import Cadastre.Text.Utf8
import Cadastre.Toml.Quoted
import Cadastre.Toml.Scalar
import Cadastre.Toml.Table

/-!
Settings files in TOML. Main definition: `read?`, the settings that a file spells, or none if the
file is not well formed.
-/

namespace Cadastre.Toml

open Text Reader

/-- Lists and inline tables nest at most this deep, and keys have at most as many parts. -/
def greatestDepth : Nat := 79

def comment : Reader Unit := do
  if ← accept "#" then skip isLineChar

def layout : Reader Unit :=
  iterate (fun () => do
    skip isSpace
    comment
    pure (if ← lineEnd then .inl () else .inr ())) ()

def isBareChar (c : Char) : Bool := c.isAlphanum || c = '_' || c = '-'

def keyPart : Reader String := do
  if ← accept "\"" then escapedLine
  else if ← accept "'" then literalLine
  else
    let bare ← run isBareChar
    if bare.isEmpty then failure else pure (.ofList bare)

def keyStep (parts : List String) : Reader (List String ⊕ (List String × String)) := do
  skip isSpace
  let part ← keyPart
  skip isSpace
  if ← accept "." then pure (.inl (part :: parts))
  else if parts.length < greatestDepth then pure (.inr (parts.reverse, part))
  else failure

/-- A key: the parts before the last one, and that one. -/
def key : Reader (List String × String) := iterate keyStep []

/-- A key, an equals sign and a value, as a change of the table they stand in. -/
def assignment (value : Reader Setting) : Reader Change := do
  let (path, name) ← key
  exactly "="
  skip isSpace
  pure (assign path name (← value))

def listStep (item : Reader Setting) (done : List Setting) : Reader (List Setting ⊕ Setting) := do
  layout
  if ← accept "]" then pure (.inr (.list done.reverse))
  else
    let value ← item
    layout
    let done := value :: done
    if ← accept "," then pure (.inl done)
    else
      exactly "]"
      pure (.inr (.list done.reverse))

def inlineStep (value : Reader Setting) (nodes : Nodes) : Reader (Nodes ⊕ Setting) := do
  let change ← assignment value
  skip isSpace
  match change .headed nodes with
  | none => failure
  | some nodes =>
    if ← accept "," then pure (.inl nodes)
    else
      exactly "\x7d"
      pure (.inr (.table (settingsOf nodes)))

def inlineTable (value : Reader Setting) : Reader Setting := do
  skip isSpace
  if ← accept "\x7d" then pure (.table []) else iterate (inlineStep value) []

/-- A value whose lists and inline tables nest at most `depth` deep. -/
def value : (depth : Nat) → Reader Setting
  | 0 => do
    match ← peek with
    | some '"' | some '\'' => pure (.text (← quoted))
    | _ => scalar
  | depth + 1 => do
    if ← accept "[" then iterate (listStep (value depth)) []
    else if ← accept "\x7b" then inlineTable (value depth)
    else value depth

/-- What has been read: the root's nodes, and the path of the last header. -/
structure Draft where
  nodes : Nodes
  header : List String

namespace Draft

def change (draft : Draft) (path : List String) (change : Change) : Option Draft :=
  (changeAt false change path .headed draft.nodes).map fun nodes => { draft with nodes }

end Draft

def lineRest : Reader Unit := do
  skip isSpace
  comment
  unless (← lineEnd) || (← peek).isNone do failure

def changed (draft : Draft) (path : List String) (change : Change) : Reader Draft :=
  match draft.change path change with
  | some draft => pure draft
  | none => failure

def header (draft : Draft) : Reader Draft := do
  if ← accept "[[" then
    let (path, name) ← key
    exactly "]]"
    let draft ← changed draft path (appendTable name)
    pure { draft with header := path ++ [name] }
  else
    exactly "["
    let (path, name) ← key
    exactly "]"
    let draft ← changed draft path (openTable name)
    pure { draft with header := path ++ [name] }

def line (draft : Draft) : Reader (Draft ⊕ Setting.Members) := do
  skip isSpace
  match ← peek with
  | none => pure (.inr (settingsOf draft.nodes))
  | some '[' =>
    let draft ← header draft
    lineRest
    pure (.inl draft)
  | some c =>
    if c = '#' || c = '\n' || c = '\r' then
      lineRest
      pure (.inl draft)
    else
      let change ← assignment (value greatestDepth)
      let draft ← changed draft draft.header change
      lineRest
      pure (.inl draft)

/-- The settings that the bytes spell. A byte order mark in front does not count. -/
def read? (bytes : Bytes) : Option Setting.Members := do
  let text ← fromUtf8? bytes
  let text := if text.toList.head? = some '\ufeff' then text.toList.tail else text.toList
  let (members, _) ← (iterate line ⟨[], []⟩ text).toOption
  members.mapM fun (key, value) => value.resolve?.map fun value => (key, value)

end Cadastre.Toml
