import Cadastre.Text.Escape

/-!
Quoted text of a settings file: on one line or on several, with escapes between double quotes and
without them between single ones.
-/

namespace Cadastre.Toml

open Text Reader

/-- Whether a character can stand on a line: all but the control characters, the tab excepted. -/
def isLineChar (c : Char) : Bool := c = '\t' || (0x20 ≤ c.toNat && c.toNat ≠ 0x7f)

def isSpace (c : Char) : Bool := c = ' ' || c = '\t'

/-- Takes the end of a line, if it is here. -/
def lineEnd : Reader Bool := do
  if ← accept "\n" then pure true else accept "\r\n"

def lineChar : Reader Char := satisfying isLineChar

/-- Text up to a quote that closes it. What was read before is reversed. -/
def escapedStep (done : List Char) : Reader (List Char ⊕ String) := do
  match ← lineChar with
  | '"' => pure (.inr (.ofList done.reverse))
  | '\\' => pure (.inl ((← escape) :: done))
  | c => pure (.inl (c :: done))

def escapedLine : Reader String := iterate escapedStep []

def literalLine : Reader String := do
  let text ← run fun c => isLineChar c && c ≠ '\''
  exactly "'"
  pure (.ofList text)

/-- Three quotes close a text on several lines, and the text may end in one or two of its own. -/
def quotesStep (quote : Char) (done : List Char) : Reader (List Char ⊕ String) := do
  let quotes ← run (· = quote)
  if quotes.length < 3 then pure (.inl (quotes ++ done))
  else if quotes.length ≤ 5 then pure (.inr (.ofList (quotes.drop 3 ++ done).reverse))
  else failure

def nextText : Reader Unit :=
  iterate (fun () => do
    skip isSpace
    pure (if ← lineEnd then .inl () else .inr ())) ()

def escapedLinesStep (done : List Char) : Reader (List Char ⊕ String) := do
  if (← peek) = some '"' then quotesStep '"' done
  else if ← lineEnd then pure (.inl ('\n' :: done))
  else
    match ← lineChar with
    | '\\' => do
      let spaces ← run isSpace
      if ← lineEnd then
        nextText
        pure (.inl done)
      else if spaces.isEmpty then pure (.inl ((← escape) :: done))
      else failure
    | c => pure (.inl (c :: done))

/-- Text on several lines, behind three quotes. A line end right behind those does not belong to
it, nor do a backslash at the end of a line and the blanks that follow. -/
def escapedLines : Reader String := do
  let _ ← lineEnd
  iterate escapedLinesStep []

def literalLinesStep (done : List Char) : Reader (List Char ⊕ String) := do
  if (← peek) = some '\'' then quotesStep '\'' done
  else if ← lineEnd then pure (.inl ('\n' :: done))
  else pure (.inl ((← lineChar) :: done))

def literalLines : Reader String := do
  let _ ← lineEnd
  iterate literalLinesStep []

/-- Quoted text of any form, from its first quote on. -/
def quoted : Reader String := do
  if ← accept "\"\"\"" then escapedLines
  else if ← accept "'''" then literalLines
  else if ← accept "\"" then escapedLine
  else
    exactly "'"
    literalLine

end Cadastre.Toml
