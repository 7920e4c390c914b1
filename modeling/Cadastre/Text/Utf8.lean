/-!
Text as bytes. `decode` reads any byte sequence: what is no character is reported as such and
reading goes on behind it, so that a caller may refuse it or overlook it.
-/

namespace Cadastre

abbrev Bytes := List UInt8

end Cadastre

namespace Cadastre.Text

def utf8 (s : String) : Bytes :=
  s.toUTF8.data.toList

def continuation? (first last : UInt8) : Bytes → Option (Nat × Bytes)
  | [] => none
  | byte :: rest => if first ≤ byte ∧ byte ≤ last then some (byte.toNat % 64, rest) else none

/-- Reads the plain continuation bytes of a character; `rest` is what follows the last byte that
fitted. -/
def finish : Nat → Nat → Bytes → Option Char × Bytes
  | 0, value, rest => (some (Char.ofNat value), rest)
  | count + 1, value, rest =>
    match continuation? 0x80 0xbf rest with
    | some (bits, rest) => finish count (value * 64 + bits) rest
    | none => (none, rest)

/-- What a first byte says of its character: the bits it holds, the range of the second byte, and
how many bytes follow that one. -/
structure Lead where
  bits : Nat
  first : UInt8
  last : UInt8
  more : Nat

/-- First bytes of characters above the seven-bit ones. The narrowed ranges leave out overlong
forms, surrogates and what lies above the last code point. -/
def lead? (byte : UInt8) : Option Lead :=
  if byte < 0xc2 then none
  else if byte < 0xe0 then some ⟨byte.toNat % 32, 0x80, 0xbf, 0⟩
  else if byte = 0xe0 then some ⟨0, 0xa0, 0xbf, 1⟩
  else if byte = 0xed then some ⟨13, 0x80, 0x9f, 1⟩
  else if byte < 0xf0 then some ⟨byte.toNat % 16, 0x80, 0xbf, 1⟩
  else if byte = 0xf0 then some ⟨0, 0x90, 0xbf, 2⟩
  else if byte < 0xf4 then some ⟨byte.toNat % 8, 0x80, 0xbf, 2⟩
  else if byte = 0xf4 then some ⟨4, 0x80, 0x8f, 2⟩
  else none

/-- The character that begins with `byte`, or none if the bytes do not go on as they must; and
the bytes behind it. -/
def character (byte : UInt8) (bytes : Bytes) : Option Char × Bytes :=
  if byte < 0x80 then (some (Char.ofNat byte.toNat), bytes)
  else
    match lead? byte with
    | none => (none, bytes)
    | some lead =>
      match continuation? lead.first lead.last bytes with
      | some (low, rest) => finish lead.more (lead.bits * 64 + low) rest
      | none => (none, bytes)

theorem length_continuation? {first last : UInt8} {bytes rest : Bytes} {bits : Nat}
    (found : continuation? first last bytes = some (bits, rest)) :
    rest.length ≤ bytes.length := by
  cases bytes with
  | nil => simp [continuation?] at found
  | cons byte tail =>
    simp only [continuation?] at found
    split at found
    · simp only [Option.some.injEq, Prod.mk.injEq] at found
      simp [← found.2]
    · cases found

theorem length_finish (count value : Nat) (bytes : Bytes) :
    (finish count value bytes).2.length ≤ bytes.length := by
  induction count generalizing value bytes with
  | zero => simp [finish]
  | succ count ih =>
    simp only [finish]
    split
    · rename_i found
      exact Nat.le_trans (ih _ _) (length_continuation? found)
    · simp

theorem length_character (byte : UInt8) (bytes : Bytes) :
    (character byte bytes).2.length ≤ bytes.length := by
  simp only [character]
  repeat' split
  · simp
  · simp
  · rename_i found
    exact Nat.le_trans (length_finish _ _ _) (length_continuation? found)
  · simp

/-- Characters in order, with `none` for each stretch of bytes that is no character. The result is
put in front of `done` reversed. -/
def decodeOnto (done : List (Option Char)) : Bytes → List (Option Char)
  | [] => done.reverse
  | byte :: rest => decodeOnto ((character byte rest).1 :: done) (character byte rest).2
  termination_by bytes => bytes.length
  decreasing_by exact Nat.lt_succ_of_le (length_character byte rest)

def decode (bytes : Bytes) : List (Option Char) :=
  decodeOnto [] bytes

/-- The text that the bytes encode, if every one of them belongs to a character. -/
def fromUtf8? (bytes : Bytes) : Option String :=
  ((decode bytes).mapM id).map String.ofList

/-- The text with a replacement character for each stretch of bytes that is no character. -/
def lossy (bytes : Bytes) : String :=
  .ofList ((decode bytes).map fun symbol => symbol.getD '\ufffd')

end Cadastre.Text
