import Provisioner.Text.Blank

/-!
Text in double quotes, as it stands in messages.

The quote and the backslash are escaped, four controls have a letter, and a character that cannot
be seen as itself is written by its code point in hexadecimal.
-/

namespace Provisioner.Text

/-- The code point of `c` in hexadecimal, between braces. -/
def codePoint (c : Char) : List Char :=
  ['\\', 'u', '\x7b'] ++ Nat.toDigits 16 c.toNat ++ ['\x7d']

def quoteChar (c : Char) : List Char :=
  match c with
  | '\x00' => ['\\', '0']
  | '\t' => ['\\', 't']
  | '\r' => ['\\', 'r']
  | '\n' => ['\\', 'n']
  | '"' => ['\\', '"']
  | '\\' => ['\\', '\\']
  | c =>
    if 0x20 ≤ c.toNat && c.toNat < 0x7f then [c]
    else if isBlank c || isExtending c then codePoint c
    else [c]

def quotedChars (cs : List Char) : List Char := '"' :: (cs.flatMap quoteChar ++ ['"'])

/-- The text between double quotes, with what cannot be read escaped. -/
def quoted (s : String) : String := String.ofList (quotedChars s.toList)

end Provisioner.Text
