import NodeEditor.Text.Category

/-!
Texts quoted inside messages: between double quotes, with escapes for quotes, backslashes and
characters that would not show.
-/

namespace NodeEditor.Text

def hexDigits (n : Nat) : List Char :=
  Nat.toDigits 16 n

def quotedChar (c : Char) : List Char :=
  match c with
  | '"' => ['\\', '"']
  | '\\' => ['\\', '\\']
  | '\n' => ['\\', 'n']
  | '\r' => ['\\', 'r']
  | '\t' => ['\\', 't']
  | '\x00' => ['\\', '0']
  | _ =>
    if 0x20 ≤ c.toNat ∧ c.toNat < 0x7F then [c]
    else if unprintable.mem c.toNat then ['\\', 'u', '\x7b'] ++ hexDigits c.toNat ++ ['\x7d']
    else [c]

def quoted (s : String) : String :=
  String.ofList (['"'] ++ s.toList.flatMap quotedChar ++ ['"'])

end NodeEditor.Text
