/-
**Quoted text.**

Names inside a description stand between double quotes. A quote and a backslash are written after
a backslash, tab, line feed, carriage return and NUL have letters of their own, and characters
without a mark on the page are written by number between braces.
-/

import ComputeHost.Text.Numbered

namespace ComputeHost.Text

/-- One character as it stands between quotes. -/
def quotedChar (c : Char) : List Char :=
  if c = '"' then ['\\', '"']
  else if c = '\\' then ['\\', '\\']
  else if c = '\t' then ['\\', 't']
  else if c = '\n' then ['\\', 'n']
  else if c = '\r' then ['\\', 'r']
  else if c = '\x00' then ['\\', '0']
  else if isNumbered c then "\\u\x7b".toList ++ Nat.toDigits 16 c.toNat ++ "\x7d".toList
  else [c]

/-- The text between double quotes. -/
def quoted (text : String) : String :=
  String.ofList ('"' :: text.toList.flatMap quotedChar ++ ['"'])

end ComputeHost.Text
