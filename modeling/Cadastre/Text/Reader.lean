/-!
Readers: functions that take a value off the front of a text, or fail. A reader that repeats a step
stops when the step takes nothing more, so that every reader ends.
-/

namespace Cadastre.Text

inductive Stop where
  /-- The text is of another form. -/
  | mismatch
  /-- A character was cut in two. No other reader can go on from there. -/
  | torn
  deriving DecidableEq, Repr

instance : Alternative (Except Stop) where
  failure := .error .mismatch
  orElse attempt other :=
    match attempt with
    | .error .mismatch => other ()
    | outcome => outcome

/-- Takes an `α` off the front of the text that is left. -/
abbrev Reader := StateT (List Char) (Except Stop)

namespace Reader

variable {α β : Type}

def peek : Reader (Option Char) := do
  pure (← get).head?

def satisfying (holds : Char → Bool) : Reader Char := do
  match ← get with
  | c :: rest =>
    if holds c then
      set rest
      pure c
    else failure
  | [] => failure

/-- Takes the characters of a class, as many as there are. -/
def run (holds : Char → Bool) : Reader (List Char) := do
  let text ← get
  set (text.dropWhile holds)
  pure (text.takeWhile holds)

def skip (holds : Char → Bool) : Reader Unit := do
  let _ ← run holds

def behind? : List Char → List Char → Option (List Char)
  | [], text => some text
  | _ :: _, [] => none
  | c :: word, first :: text => if c = first then behind? word text else none

def exactly (word : String) : Reader Unit := do
  match behind? word.toList (← get) with
  | some rest => set rest
  | none => failure

/-- Takes this text if it is there, and tells whether it is. -/
def accept (word : String) : Reader Bool := do
  match behind? word.toList (← get) with
  | some rest =>
    set rest
    pure true
  | none => pure false

/-- Repeats a step until it comes to a result. Each time it has to take something. -/
def iterate (step : α → Reader (α ⊕ β)) (state : α) (text : List Char) :
    Except Stop (β × List Char) :=
  match step state text with
  | .error stop => .error stop
  | .ok (.inr result, rest) => .ok (result, rest)
  | .ok (.inl next, rest) =>
    if rest.length < text.length then iterate step next rest else .error .mismatch
  termination_by text.length

def whole (reader : Reader α) (text : List Char) : Except Stop α :=
  match reader text with
  | .ok (value, []) => .ok value
  | .ok _ => .error .mismatch
  | .error stop => .error stop

def whole? (reader : Reader α) (text : List Char) : Option α := (reader.whole text).toOption

end Reader

end Cadastre.Text
