/-
**Writing JSON.**

Values are written without blanks. In a string a quote and a backslash stand after a backslash,
control characters have a letter or a four-digit number, and all else stands as it is.
-/

import ComputeHost.Json.Basic

namespace ComputeHost

/-- The number as it is written. -/
def Numeral.chars (numeral : Numeral) : List Char :=
  (if numeral.negative then ['-'] else []) ++ numeral.whole ++
    (if numeral.fraction.isEmpty then [] else '.' :: numeral.fraction) ++
    match numeral.exponent with
    | none => []
    | some (negative, digits) => 'e' :: (if negative then ['-'] else []) ++ digits

namespace Json

/-- One character of a string. -/
def textChar (c : Char) : List Char :=
  if c = '"' then ['\\', '"']
  else if c = '\\' then ['\\', '\\']
  else if c = '\x08' then ['\\', 'b']
  else if c = '\x0c' then ['\\', 'f']
  else if c = '\n' then ['\\', 'n']
  else if c = '\r' then ['\\', 'r']
  else if c = '\t' then ['\\', 't']
  else if c.toNat < 0x20 then
    ['\\', 'u', '0', '0', Nat.digitChar (c.toNat / 16), Nat.digitChar (c.toNat % 16)]
  else [c]

/-- A string in quotes. One that denotes no text is written as half a surrogate pair. -/
def textChars : Option String → List Char
  | some string => '"' :: string.toList.flatMap textChar ++ ['"']
  | none => "\"\\ud800\"".toList

mutual

/-- A value without blanks. -/
def chars : Json → List Char
  | .null => "null".toList
  | .bool true => "true".toList
  | .bool false => "false".toList
  | .number numeral => numeral.chars
  | .text value => textChars value
  | .array items => '[' :: itemChars items ++ [']']
  | .object members => '\x7b' :: memberChars members ++ ['\x7d']

/-- The items of an array with commas between them. -/
def itemChars : List Json → List Char
  | [] => []
  | [item] => chars item
  | item :: next :: rest => chars item ++ ',' :: itemChars (next :: rest)

/-- The members of an object with commas between them. -/
def memberChars : List (Option String × Json) → List Char
  | [] => []
  | [(key, value)] => textChars key ++ ':' :: chars value
  | (key, value) :: next :: rest =>
    textChars key ++ ':' :: chars value ++ ',' :: memberChars (next :: rest)

end

/-- The document of a value. -/
def compact (value : Json) : String := String.ofList (chars value)

end Json

end ComputeHost
