import Cadastre.Config.Setting
import Cadastre.Json.Token
import Cadastre.Text.Reader

/-!
Plain values of a settings file: truth values, numbers, dates and times. They are words that end at
a blank, a comma or a bracket; only a date and its time may have a space between them.
-/

namespace Cadastre.Toml

open Text Reader Json

def isWordChar (c : Char) : Bool :=
  c.isAlphanum || c = '_' || c = '-' || c = '+' || c = '.' || c = ':'

/-- The word without its underscores, each of which stands between two digits. -/
def ungrouped? (isDigit : Char → Bool) : List Char → Option (List Char)
  | [] => some []
  | '_' :: _ => none
  | digit :: '_' :: next :: rest =>
    if isDigit digit && isDigit next then (ungrouped? isDigit (next :: rest)).map (digit :: ·)
    else none
  | c :: rest => (ungrouped? isDigit rest).map (c :: ·)

def integer? (value : Int) : Option Setting :=
  if -Int.pow 2 63 ≤ value ∧ value < Int.pow 2 63 then some (.signed value) else none

/-- A number written in a base of two, eight or sixteen. -/
def based? (base : Nat) (digits : List Char) : Option Setting := do
  let isDigit (c : Char) : Bool := (Bytes.hexValue? c).any (· < base)
  let digits ← ungrouped? isDigit digits
  if digits.isEmpty || !digits.all isDigit then none
  else integer? (digits.foldl (fun value c => value * base + (Bytes.hexValue? c).getD 0) 0 : Nat)

def special? (word : List Char) : Option Setting :=
  let unsigned := if word.head? = some '+' || word.head? = some '-' then word.tail else word
  if unsigned = "inf".toList || unsigned = "nan".toList then some .decimal else none

/-- The least number that rounds to an infinite double: half a step above the greatest one. -/
def overflow : Nat := (Nat.pow 2 54 - 1) * Nat.pow 2 970

/-- Whether `digits`, read as one number and scaled by a power of ten, rounds to an infinite
double. The overflow has 309 digits, so that only near it numbers need to be compared. -/
def overflows (digits : List Char) (exponent : Int) : Bool :=
  let significant := digits.dropWhile (· = '0')
  let magnitude := significant.length + exponent
  if significant.isEmpty || magnitude < 309 then false
  else if 309 < magnitude then true
  else
    let value := Nat.ofDigitChars 10 significant 0
    decide (overflow * Nat.pow 10 (-exponent).toNat ≤ value * Nat.pow 10 exponent.toNat)

/-- A decimal number: whole, or with a fraction or an exponent. One that is too large is refused
unless it is negative. -/
def decimal? (word : List Char) : Option Setting := do
  let unsigned := if word.head? = some '+' then word.tail else word
  if word.head? = some '+' && unsigned.head? = some '-' then none
  else
    let numeral ← Numeral.ofChars? (← ungrouped? Char.isDigit unsigned)
    if numeral.fraction.isNone && numeral.exponent.isNone then
      let value : Int := Nat.ofDigitChars 10 numeral.whole 0
      integer? (if numeral.negative then -value else value)
    else
      let fraction := numeral.fraction.getD []
      let exponent := numeral.exponent.getD 0 - fraction.length
      if !numeral.negative && overflows (numeral.whole ++ fraction) exponent then none
      else some .decimal

def number? : List Char → Option Setting
  | '0' :: 'x' :: digits => based? 16 digits
  | '0' :: 'o' :: digits => based? 8 digits
  | '0' :: 'b' :: digits => based? 2 digits
  | word => (special? word).or (decimal? word)

def digits : Nat → Reader Nat
  | 0 => pure 0
  | count + 1 => do
    let above ← digits count
    let digit ← satisfying Char.isDigit
    pure (above * 10 + (digit.toNat - '0'.toNat))

def isLeap (year : Nat) : Bool :=
  year % 4 = 0 && (year % 100 ≠ 0 || year % 400 = 0)

def daysIn (year month : Nat) : Nat :=
  if month = 2 then if isLeap year then 29 else 28
  else if [4, 6, 9, 11].contains month then 30
  else 31

def date : Reader Unit := do
  let year ← digits 4
  exactly "-"
  let month ← digits 2
  exactly "-"
  let day ← digits 2
  unless 1 ≤ month && month ≤ 12 && 1 ≤ day && day ≤ daysIn year month do failure

def hourAndMinute : Reader Unit := do
  let hour ← digits 2
  exactly ":"
  let minute ← digits 2
  unless hour ≤ 23 && minute ≤ 59 do failure

/-- The time of a day, which may have a leap second and a fraction of a second. -/
def time : Reader Unit := do
  hourAndMinute
  exactly ":"
  let second ← digits 2
  unless second ≤ 60 do failure
  if ← accept "." then
    if (← run Char.isDigit).isEmpty then failure

/-- How far a time is from Greenwich's, if that is told. -/
def offset : Reader Unit := do
  match ← peek with
  | none => pure ()
  | some sign =>
    let _ ← satisfying fun _ => true
    if sign = '+' || sign = '-' then hourAndMinute
    else unless sign = 'Z' || sign = 'z' do failure

def timeWithOffset : Reader Unit := do
  time
  offset

def isDate (word : List Char) : Bool := (whole? date word).isSome

/-- Whether the word is a date, a time, or both with a letter between them. -/
def isMoment (word : List Char) : Bool :=
  let both : Reader Unit := do
    date
    let _ ← satisfying fun c => c = 'T' || c = 't'
    timeWithOffset
  isDate word || (whole? time word).isSome || (whole? both word).isSome

/-- Dates and times are tables of their own form, with a member that no section has. -/
def moment (text : List Char) : Setting := .table [("moment", .text (.ofList text))]

def ofWord? (word : List Char) : Option Setting :=
  if word = "true".toList then some (.flag true)
  else if word = "false".toList then some (.flag false)
  else if isMoment word then some (moment word)
  else number? word

/-- A plain value. A space and a digit behind a date begin its time. -/
def scalar : Reader Setting := do
  let word ← run isWordChar
  match isDate word, ← get with
  | true, ' ' :: digit :: _ =>
    if digit.isDigit then do
      let _ ← satisfying fun _ => true
      let time ← run isWordChar
      if (whole? timeWithOffset time).isSome then pure (moment (word ++ ' ' :: time)) else failure
    else pure (moment word)
  | _, _ =>
    match ofWord? word with
    | some value => pure value
    | none => failure

end Cadastre.Toml
