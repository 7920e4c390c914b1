import Cadastre.Text.Hidden

/-!
Text quoted for a message, so that its extent and its invisible characters can be seen.
-/

namespace Cadastre.Text

def hexDigits (n : Nat) : List Char :=
  Nat.toDigits 16 n

def quoteChar (c : Char) : List Char :=
  match c with
  | '"' => ['\\', '"']
  | '\\' => ['\\', '\\']
  | '\n' => ['\\', 'n']
  | '\r' => ['\\', 'r']
  | '\t' => ['\\', 't']
  | '\x00' => ['\\', '0']
  | c => if isHidden c then ['\\', 'u', '\x7b'] ++ hexDigits c.toNat ++ ['\x7d'] else [c]

def quoted (s : String) : String :=
  .ofList (['"'] ++ s.toList.flatMap quoteChar ++ ['"'])

end Cadastre.Text
