import Cadastre.Bytes.Radix64
import Cadastre.Json.Document

/-!
The tokens of a JSON text. The lexer is a fold over the characters; `none` among them stands for
bytes that are no character and may occur inside a string only.
-/

namespace Cadastre.Json

/-- What a string's text is made of: characters, stretches that are none, and sixteen-bit units
given by number. -/
inductive Piece where
  | char (c : Char)
  | broken
  | unit (value : Nat)

namespace Piece

def isHigh (value : Nat) : Bool := 0xd800 ≤ value && value ≤ 0xdbff

def isLow (value : Nat) : Bool := 0xdc00 ≤ value && value ≤ 0xdfff

def pair (high low : Nat) : Char :=
  Char.ofNat (0x10000 + (high - 0xd800) * 0x400 + (low - 0xdc00))

/-- The pieces' text after `done`, which is reversed. A unit of a pair that stands alone is no
text. -/
def readOnto (done : List Char) : List Piece → Option String
  | [] => some (.ofList done.reverse)
  | .char c :: rest => readOnto (c :: done) rest
  | .broken :: _ => none
  | .unit high :: .unit low :: rest =>
    if isHigh high then
      if isLow low then readOnto (pair high low :: done) rest else none
    else if isLow high then none
    else readOnto (Char.ofNat high :: done) (.unit low :: rest)
  | .unit value :: rest =>
    if isHigh value || isLow value then none else readOnto (Char.ofNat value :: done) rest
  termination_by pieces => pieces.length

def text? (pieces : List Piece) : Option String :=
  readOnto [] pieces

end Piece

/-- A number's spelling: the digits before and behind the point, and the exponent. The last two
are missing from the spelling of an integer. -/
structure Numeral where
  negative : Bool
  whole : List Char
  fraction : Option (List Char)
  exponent : Option Int

namespace Numeral

def digitsThen (cs : List Char) : List Char × List Char :=
  (cs.takeWhile Char.isDigit, cs.dropWhile Char.isDigit)

def exponent? : List Char → Option (Option Int)
  | [] => some none
  | mark :: rest =>
    let negative := rest.head? = some '-'
    let digits := if negative || rest.head? = some '+' then rest.tail else rest
    if (mark = 'e' || mark = 'E') && !digits.isEmpty && digits.all Char.isDigit then
      let value : Int := Nat.ofDigitChars 10 digits 0
      some (some (if negative then -value else value))
    else none

def ofChars? (cs : List Char) : Option Numeral :=
  let negative := cs.head? = some '-'
  let (whole, rest) := digitsThen (if negative then cs.tail else cs)
  if whole.isEmpty || (whole.head? = some '0' && whole ≠ ['0']) then none
  else if rest.head? = some '.' then
    let (fraction, rest) := digitsThen rest.tail
    if fraction.isEmpty then none
    else (exponent? rest).map fun exponent => ⟨negative, whole, some fraction, exponent⟩
  else (exponent? rest).map fun exponent => ⟨negative, whole, none, exponent⟩

/-- Appends digits to a number as long as it stays below `2 ^ 64`; the digits left over. -/
def gather (value : Nat) : List Char → Nat × List Char
  | [] => (value, [])
  | digit :: rest =>
    let longer := value * 10 + (digit.toNat - '0'.toNat)
    if longer < Nat.pow 2 64 then gather longer rest else (value, digit :: rest)

/-- The double of a spelling: as many digits as fit sixty-four bits, scaled by a power of ten. A
digit before the point that does not fit counts as a zero, one behind it is dropped. -/
def double? (numeral : Numeral) : Option Double :=
  let fraction := numeral.fraction.getD []
  let (start, uncounted) := gather 0 numeral.whole
  let (value, dropped) := gather start fraction
  let exponent : Int := uncounted.length - (fraction.length - dropped.length : Int)
    + numeral.exponent.getD 0
  ((Double.ofNat value).scale exponent).map fun x => if numeral.negative then x.negate else x

/-- The number that is meant, if it is not too large. Whole numbers from `-2 ^ 63` up to below
`2 ^ 64` are integers, save the negative zero. -/
def number? (numeral : Numeral) : Option Number :=
  let value := Nat.ofDigitChars 10 numeral.whole 0
  if numeral.fraction.isSome || numeral.exponent.isSome then numeral.double?.map .double
  else if numeral.negative then
    if value = 0 then some (.double (Double.zero true))
    else if value ≤ Nat.pow 2 63 then some (.integer (-value))
    else numeral.double?.map .double
  else if value < Nat.pow 2 64 then some (.integer value)
  else numeral.double?.map .double

end Numeral

inductive Token where
  | openObject
  | closeObject
  | openArray
  | closeArray
  | colon
  | comma
  | text (value : Option String) (escaped : Bool)
  | leaf (document : Document)

namespace Token

def ofWord? (word : List Char) : Option Token :=
  if word = "null".toList then some (leaf .null)
  else if word = "true".toList then some (leaf (.bool true))
  else if word = "false".toList then some (leaf (.bool false))
  else (Numeral.ofChars? word).map fun numeral => leaf (.number numeral.number?)

def ofMark? : Char → Option Token
  | '\x7b' => some openObject
  | '\x7d' => some closeObject
  | '[' => some openArray
  | ']' => some closeArray
  | ':' => some colon
  | ',' => some comma
  | _ => none

end Token

/-- Where the lexer stands. Characters and pieces read so far are reversed. -/
inductive Mode where
  | between
  | word (letters : List Char)
  | text (pieces : List Piece) (escaped : Bool)
  | escape (pieces : List Piece)
  | unit (pieces : List Piece) (missing value : Nat)

structure Lexer where
  done : List Token
  mode : Mode

namespace Lexer

def isSpace (c : Char) : Bool := c = ' ' || c = '\n' || c = '\t' || c = '\r'

def isWordChar (c : Char) : Bool := c.isAlphanum || c = '+' || c = '-' || c = '.'

def enter (done : List Token) (c : Char) : Option Lexer :=
  if isSpace c then some ⟨done, .between⟩
  else if c = '"' then some ⟨done, .text [] false⟩
  else if isWordChar c then some ⟨done, .word [c]⟩
  else (Token.ofMark? c).map fun token => ⟨token :: done, .between⟩

def escaped? : Char → Option Char
  | '"' => some '"'
  | '\\' => some '\\'
  | '/' => some '/'
  | 'b' => some '\x08'
  | 'f' => some '\x0c'
  | 'n' => some '\n'
  | 'r' => some '\r'
  | 't' => some '\t'
  | _ => none

def step (lexer : Lexer) (symbol : Option Char) : Option Lexer :=
  match lexer.mode, symbol with
  | .between, some c => enter lexer.done c
  | .word letters, some c =>
    if isWordChar c then some ⟨lexer.done, .word (c :: letters)⟩
    else (Token.ofWord? letters.reverse).bind fun token => enter (token :: lexer.done) c
  | .text pieces escaped, none => some ⟨lexer.done, .text (.broken :: pieces) escaped⟩
  | .text pieces escaped, some c =>
    if c = '"' then
      some ⟨.text (Piece.text? pieces.reverse) escaped :: lexer.done, .between⟩
    else if c = '\\' then some ⟨lexer.done, .escape pieces⟩
    else if c.toNat < 0x20 then none
    else some ⟨lexer.done, .text (.char c :: pieces) escaped⟩
  | .escape pieces, some c =>
    if c = 'u' then some ⟨lexer.done, .unit pieces 3 0⟩
    else (escaped? c).map fun plain => ⟨lexer.done, .text (.char plain :: pieces) true⟩
  | .unit pieces missing value, some c =>
    (Bytes.hexValue? c).map fun digit =>
      let value := value * 16 + digit
      match missing with
      | 0 => ⟨lexer.done, .text (.unit value :: pieces) true⟩
      | missing + 1 => ⟨lexer.done, .unit pieces missing value⟩
  | _, none => none

/-- The tokens, if the text does not end inside one. -/
def finish (lexer : Lexer) : Option (List Token) :=
  match lexer.mode with
  | .between => some lexer.done.reverse
  | .word letters => (Token.ofWord? letters.reverse).map fun token => (token :: lexer.done).reverse
  | _ => none

def start : Lexer := ⟨[], .between⟩

end Lexer

def tokens? (symbols : List (Option Char)) : Option (List Token) :=
  (symbols.foldlM Lexer.step Lexer.start).bind Lexer.finish

end Cadastre.Json
