import Cadastre.Config.Setting
import Cadastre.Json.Token
import Cadastre.Text.Blank
import Cadastre.Text.Numeral
import Cadastre.Toml.Quoted

/-!
Settings from environment variables. `TESSERA_GRID__GRID_WIDTH=40` stands for the member
`grid_width` of the section `grid`; the value is a truth value, a number, a list, a table, quoted
text, or else the text itself.
-/

namespace Cadastre

abbrev Environment := List (String × String)

namespace Environment

def get? (environment : Environment) (name : String) : Option String :=
  (environment.find? fun entry => entry.1 = name).map Prod.snd

/-- What the name of every setting's variable begins with, in letters of any case. -/
def mark : String := "TESSERA_"

/-- The variable, without the mark, that names the settings file and is no setting. -/
def fileVariable : String := "CONFIG"

def lower (cs : List Char) : List Char := cs.map Char.toLower

def startsWith (start cs : List Char) : Bool := lower (cs.take start.length) = lower start

/-- The text with every pair of underscores as one point. -/
def pointed : List Char → List Char
  | '_' :: '_' :: rest => '.' :: pointed rest
  | c :: rest => c :: pointed rest
  | [] => []

/-- The path of the setting that a variable stands for, if it stands for one. Blanks around the
name, with the mark or without it, do not count. -/
def path? (name : String) : Option (List String) :=
  let name := Text.trimChars name.toList
  let rest := name.drop mark.length
  if !startsWith mark.toList name || lower rest = lower fileVariable.toList then none
  else
    let parts := Text.pieces (· = '.') (lower (Text.trimChars (pointed rest)))
    if parts.any List.isEmpty then none else some (parts.map String.ofList)

section Values

open Text Reader

def isBlank (c : Char) : Bool := c = ' ' || c = '\t' || c = '\n' || c = '\x0c' || c = '\r'

def isMark (c : Char) : Bool := [',', '\x7b', '\x7d', '[', ']'].contains c

def isDecimal (word : List Char) : Bool :=
  let unsigned := if word.head? = some '-' || word.head? = some '+' then word.tail else word
  let (whole, rest) := Json.Numeral.digitsThen unsigned
  let (fraction, exponent) := Json.Numeral.digitsThen rest.tail
  rest.head? = some '.' && !(whole.isEmpty && fraction.isEmpty) &&
    (Json.Numeral.exponent? exponent).isSome

/-- A whole number of sixty-four bits. It is signed only behind a minus. -/
def whole? (word : List Char) : Option Setting :=
  match word with
  | '-' :: digits =>
    if digits.head? = some '+' then none
    else (readBelow (Nat.pow 2 63 + 1) digits).map fun value => .signed (-value)
  | _ => (readBelow (Nat.pow 2 64) word).map .unsigned

/-- What a word is that has no marks around it. -/
def ofWord (word : List Char) : Setting :=
  if isDecimal word then .decimal else (whole? word).getD (.text (.ofList word))

def plain : Reader Setting := do
  pure (ofWord (trimChars (← run fun c => !isMark c)))

/-- Whether a quote closes the text. One behind a backslash does not. -/
def isClosed : List Char → Bool
  | '"' :: _ => true
  | '\\' :: _ :: rest => isClosed rest
  | _ :: rest => isClosed rest
  | [] => false

/-- The characters that a number of bytes at the front of a text spell. -/
def firstBytes : Nat → List Char → Except Stop (List Char)
  | 0, _ => .ok []
  | _, [] => .ok []
  | bytes, c :: rest =>
    if c.utf8Size ≤ bytes then (firstBytes (bytes - c.utf8Size) rest).map (c :: ·)
    else .error .torn

/-- Text behind a quote. What stands before its first escape is kept as far as bytes go that are
as many as its characters. -/
def quoted : Reader String := do
  unless isClosed (← get) do failure
  let start ← run fun c => Toml.isLineChar c && c ≠ '"' && c ≠ '\\'
  if ← accept "\\" then
    let kept ← firstBytes start.length start
    iterate Toml.escapedStep ((← escape) :: kept.reverse)
  else
    exactly "\""
    pure (.ofList start)

def listStep (item : Reader Setting) (done : List Setting) :
    Reader (List Setting ⊕ Setting) := do
  if ← accept "]" then pure (.inr (.list done.reverse))
  else
    let done := (← item) :: done
    if ← accept "," then pure (.inl done)
    else
      exactly "]"
      pure (.inr (.list done.reverse))

def key : Reader String := do
  skip isBlank
  let name ← if ← accept "\"" then quoted
    else do
      let bare ← run fun c => c.isAlphanum || c = '_' || c = '-'
      if bare.isEmpty then failure else pure (.ofList bare)
  skip isBlank
  pure name

def tableStep (value : Reader Setting) (done : Setting.Members) :
    Reader (Setting.Members ⊕ Setting) := do
  if ← accept "\x7d" then pure (.inr (.table done))
  else
    let name ← key
    exactly "="
    let done := done.put name (← value)
    if ← accept "," then pure (.inl done)
    else
      exactly "\x7d"
      pure (.inr (.table done))

/-- A value whose lists and tables nest at most `depth` deep, with blanks around it. -/
def value (depth : Nat) : Reader Setting := do
  skip isBlank
  let value ←
    if ← accept "true" then pure (.flag true)
    else if ← accept "false" then pure (.flag false)
    else if ← accept "\"" then pure (.text (← quoted))
    else if ← accept "'" then do
      let c ← satisfying fun _ => true
      exactly "'"
      pure (.letter c)
    else
      match depth with
      | 0 => plain
      | depth + 1 =>
        if ← accept "[" then iterate (listStep (value depth)) []
        else if ← accept "\x7b" then iterate (tableStep (value depth)) []
        else plain
  skip isBlank
  pure value

/-- The value that a text spells, and the text itself if it does not spell one as a whole. -/
def ofText (text : String) : Except Stop Setting :=
  (value text.length).whole text.toList <|> pure (.text text)

end Values

/-- What all variables say. Of two that stand for the same setting the later one counts. -/
def settings (environment : Environment) : Except Text.Stop Setting :=
  environment.foldlM
    (fun settings (name, text) =>
      match path? name with
      | some path => do pure (settings.overlay (.nested path (← ofText text)))
      | none => pure settings)
    (.table [])

end Environment

end Cadastre
