import Cadastre.Bytes.Radix64
import Cadastre.Text.Reader

/-!
Escapes in quoted settings: a backslash and a letter, or a character's number in hexadecimal
digits.
-/

namespace Cadastre.Text.Reader

def hexNumber : Nat → Reader Nat
  | 0 => pure 0
  | digits + 1 => do
    let above ← hexNumber digits
    let digit ← satisfying fun c => (Bytes.hexValue? c).isSome
    pure (above * 16 + (Bytes.hexValue? digit).getD 0)

def numbered (digits : Nat) : Reader Char := do
  let number ← hexNumber digits
  if number.isValidChar then pure (.ofNat number) else failure

def escape : Reader Char := do
  match ← satisfying fun _ => true with
  | 'b' => pure '\x08'
  | 't' => pure '\t'
  | 'n' => pure '\n'
  | 'f' => pure '\x0c'
  | 'r' => pure '\r'
  | '"' => pure '"'
  | '\\' => pure '\\'
  | 'u' => numbered 4
  | 'U' => numbered 8
  | _ => failure

end Cadastre.Text.Reader
