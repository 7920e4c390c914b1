import Cadastre.Text.Utf8

/-!
Bytes written as text by groups of bits: two hexadecimal digits a byte, or one of sixty-four
letters for six bits, three bytes becoming four letters.
-/

namespace Cadastre.Bytes

def hexDigit (n : Nat) : Char :=
  (Nat.digitChar n)

def hex (bytes : Bytes) : String :=
  .ofList (bytes.flatMap fun byte => [hexDigit (byte.toNat / 16), hexDigit (byte.toNat % 16)])

/-- The value of a hexadecimal digit, which may be a capital letter. -/
def hexValue? (c : Char) : Option Nat :=
  if c.isDigit then some (c.toNat - '0'.toNat)
  else if 'a' ≤ c ∧ c ≤ 'f' then some (c.toNat - 'a'.toNat + 10)
  else if 'A' ≤ c ∧ c ≤ 'F' then some (c.toNat - 'A'.toNat + 10)
  else none

def ofHex? : List Char → Option Bytes
  | [] => some []
  | high :: low :: rest =>
    match hexValue? high, hexValue? low, ofHex? rest with
    | some high, some low, some bytes => some (UInt8.ofNat (high * 16 + low) :: bytes)
    | _, _, _ => none
  | [_] => none

theorem hexValue?_hexDigit (n : Fin 16) : hexValue? (hexDigit n) = some n.val := by
  revert n
  decide

theorem ofHex?_hex (bytes : Bytes) : ofHex? (hex bytes).toList = some bytes := by
  have value (n : Nat) (small : n < 16) : hexValue? (hexDigit n) = some n :=
    hexValue?_hexDigit ⟨n, small⟩
  induction bytes with
  | nil => rfl
  | cons byte rest ih =>
    have below := byte.toNat_lt
    simp only [hex, String.toList_ofList] at ih
    simp only [hex, List.flatMap_cons, String.toList_ofList, List.cons_append, List.nil_append,
      ofHex?, value (byte.toNat / 16) (by omega), value (byte.toNat % 16) (by omega), ih,
      Nat.div_add_mod', UInt8.ofNat_toNat]

/-- Sixty-four letters and, where groups are to be filled up, the letter that fills them. -/
structure Alphabet where
  letters : String
  filler : Option Char

/-- The letters that are safe in addresses, without filling. -/
def addressSafe : Alphabet :=
  ⟨"ABCDEFGHIJKLMNOPQRSTUVWXYZabcdefghijklmnopqrstuvwxyz0123456789-_", none⟩

def standard : Alphabet :=
  ⟨"ABCDEFGHIJKLMNOPQRSTUVWXYZabcdefghijklmnopqrstuvwxyz0123456789+/", some '='⟩

def Alphabet.letter (alphabet : Alphabet) (n : Nat) : Char :=
  alphabet.letters.toList.getD (n % 64) 'A'

def Alphabet.fill (alphabet : Alphabet) (count : Nat) : List Char :=
  match alphabet.filler with
  | none => []
  | some filler => List.replicate count filler

def Alphabet.encode (alphabet : Alphabet) : Bytes → List Char
  | a :: b :: c :: rest =>
    let n := a.toNat * 65536 + b.toNat * 256 + c.toNat
    alphabet.letter (n / 262144) :: alphabet.letter (n / 4096) :: alphabet.letter (n / 64)
      :: alphabet.letter n :: alphabet.encode rest
  | [a, b] =>
    let n := a.toNat * 65536 + b.toNat * 256
    [alphabet.letter (n / 262144), alphabet.letter (n / 4096), alphabet.letter (n / 64)]
      ++ alphabet.fill 1
  | [a] =>
    let n := a.toNat * 65536
    [alphabet.letter (n / 262144), alphabet.letter (n / 4096)] ++ alphabet.fill 2
  | [] => []

/-- Unpadded text of the bytes that may stand in an address. -/
def base64url (bytes : Bytes) : String :=
  .ofList (addressSafe.encode bytes)

def base64 (bytes : Bytes) : String :=
  .ofList (standard.encode bytes)

/-- The number's `width` lowest bytes, lowest first. -/
def littleEndian : Nat → Nat → Bytes
  | 0, _ => []
  | width + 1, n => UInt8.ofNat n :: littleEndian width (n / 256)

@[simp] theorem length_littleEndian (width n : Nat) : (littleEndian width n).length = width := by
  induction width generalizing n with
  | zero => rfl
  | succ width ih => simp [littleEndian, ih]

end Cadastre.Bytes
