import Cadastre.Json.Token
import Cadastre.Text.Utf8

/-!
Reading a JSON document. The reader is a fold over the tokens with a stack of the arrays and
objects that are still open.
-/

namespace Cadastre.Json

/-- An open array or object, what it holds already in reverse. A `member` waits for the value of
its key. -/
inductive Frame where
  | array (items : List Document)
  | object (members : List (Key × Document))
  | member (members : List (Key × Document)) (key : Key)

/-- What may come next. A value or a key that `mayClose` is the first of its brackets. -/
inductive Phase where
  | value (mayClose : Bool)
  | key (mayClose : Bool)
  | colon (key : Key)
  | separator
  | finished (root : Document)

structure Reader where
  frames : List Frame
  phase : Phase

namespace Reader

def place (frames : List Frame) (document : Document) : Option Reader :=
  match frames with
  | [] => some ⟨[], .finished document⟩
  | .array items :: rest => some ⟨.array (document :: items) :: rest, .separator⟩
  | .member members key :: rest => some ⟨.object ((key, document) :: members) :: rest, .separator⟩
  | .object _ :: _ => none

def close (frames : List Frame) (token : Token) : Option Reader :=
  match token, frames with
  | .closeArray, .array items :: rest => place rest (.array items.reverse)
  | .closeObject, .object members :: rest => place rest (.object members.reverse)
  | _, _ => none

def step (reader : Reader) (token : Token) : Option Reader :=
  match reader.phase, token with
  | .value _, .leaf document => place reader.frames document
  | .value _, .text value _ => place reader.frames (.string value)
  | .value _, .openArray => some ⟨.array [] :: reader.frames, .value true⟩
  | .value _, .openObject => some ⟨.object [] :: reader.frames, .key true⟩
  | .value true, .closeArray => close reader.frames .closeArray
  | .key _, .text value escaped => some ⟨reader.frames, .colon ⟨value, escaped⟩⟩
  | .key true, .closeObject => close reader.frames .closeObject
  | .colon key, .colon =>
    match reader.frames with
    | .object members :: rest => some ⟨.member members key :: rest, .value false⟩
    | _ => none
  | .separator, .comma =>
    match reader.frames with
    | .array _ :: _ => some ⟨reader.frames, .value false⟩
    | .object _ :: _ => some ⟨reader.frames, .key false⟩
    | _ => none
  | .separator, token => close reader.frames token
  | _, _ => none

def start : Reader := ⟨[], .value false⟩

def finish (reader : Reader) : Option Document :=
  match reader.phase with
  | .finished root => some root
  | _ => none

end Reader

def ofTokens? (tokens : List Token) : Option Document :=
  (tokens.foldlM Reader.step Reader.start).bind Reader.finish

def Document.read? (bytes : Bytes) : Option Document :=
  (tokens? (Text.decode bytes)).bind ofTokens?

def greatestDepth : Nat := 127

def read? (bytes : Bytes) : Option Json :=
  (Document.read? bytes).bind (Document.settle? greatestDepth)

end Cadastre.Json
