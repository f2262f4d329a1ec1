import Paperdoll.Text.Hidden

/-!
# Quoted text in messages

Messages show a foreign text between double quotes. A quote and a backslash are written
after a backslash; line feed, carriage return, tab and the null character have short forms;
any other hidden character is written by its code in braces. **`quote`** writes the whole.
-/

namespace Paperdoll.Text

/-- The code of a character in braces, with the fewest hexadecimal digits. -/
def codeForm (c : Char) : List Char :=
  ['\\', 'u', '\x7b'] ++ Nat.toDigits 16 c.toNat ++ ['\x7d']

def quoteChar (c : Char) : List Char :=
  if c = '"' ∨ c = '\\' then ['\\', c]
  else if c = '\n' then ['\\', 'n']
  else if c = '\r' then ['\\', 'r']
  else if c = '\t' then ['\\', 't']
  else if c.toNat = 0 then ['\\', '0']
  else if isHidden c then codeForm c
  else [c]

/-- The text between double quotes, with what a reader could not see made visible. -/
def quote (s : String) : String :=
  String.ofList ('"' :: s.toList.flatMap quoteChar ++ ['"'])

end Paperdoll.Text
