/-
**Hexadecimal text.**

Addresses and flag words are written in lower case after `0x`, without leading zeros; zero itself
is `0x0`. Bytes are written with two digits each. Both are read in either case.

* `byteChars_read` — a byte is read back from its two digits.
* `ofHexBytes?_hexBytes` — bytes are read back from their text.
-/

namespace ComputeHost.Text

/-- The number in base 16 after `0x`. -/
def hex (value : Nat) : String := "0x" ++ String.ofList (Nat.toDigits 16 value)

/-- The value of a digit in base 16. -/
def hexDigit? (c : Char) : Option Nat :=
  if '0' ≤ c && c ≤ '9' then some (c.toNat - '0'.toNat)
  else if 'a' ≤ c && c ≤ 'f' then some (c.toNat - 'a'.toNat + 10)
  else if 'A' ≤ c && c ≤ 'F' then some (c.toNat - 'A'.toNat + 10)
  else none

/-- The number that digits in base 16 denote after `0x`. -/
def ofHex? (text : String) : Option Nat :=
  match text.toList with
  | '0' :: 'x' :: digits =>
    if digits.isEmpty then none
    else digits.foldlM (fun value c => (hexDigit? c).map fun digit => value * 16 + digit) 0
  | _ => none

/-- The two digits of a byte. -/
def byteChars (byte : UInt8) : List Char :=
  [Nat.digitChar (byte.toNat / 16), Nat.digitChar (byte.toNat % 16)]

/-- Bytes with two digits each. -/
def hexBytes (bytes : List UInt8) : String := String.ofList (bytes.flatMap byteChars)

/-- The bytes of digits, two for each. -/
def bytesOfDigits? : List Char → Option (List UInt8)
  | [] => some []
  | [_] => none
  | high :: low :: rest => do
    let high ← hexDigit? high
    let low ← hexDigit? low
    return UInt8.ofNat (high * 16 + low) :: (← bytesOfDigits? rest)

/-- The bytes of a text with two digits for each. -/
def ofHexBytes? (text : String) : Option (List UInt8) := bytesOfDigits? text.toList

theorem hexDigit?_digitChar {digit : Nat} (small : digit < 16) :
    hexDigit? (Nat.digitChar digit) = some digit := by
  have all : ∀ digit < 16, hexDigit? (Nat.digitChar digit) = some digit := by decide
  exact all digit small

theorem byteChars_read (byte : UInt8) (rest : List Char) :
    bytesOfDigits? (byteChars byte ++ rest) = (bytesOfDigits? rest).map (byte :: ·) := by
  have bound := byte.toNat_lt
  have high := hexDigit?_digitChar (show byte.toNat / 16 < 16 by omega)
  have low := hexDigit?_digitChar (show byte.toNat % 16 < 16 by omega)
  have whole : UInt8.ofNat (byte.toNat / 16 * 16 + byte.toNat % 16) = byte := by
    rw [Nat.div_add_mod' byte.toNat 16, UInt8.ofNat_toNat]
  simp only [byteChars, List.cons_append, List.nil_append, bytesOfDigits?, high, low, whole,
    Option.bind_eq_bind, Option.bind_some]
  cases bytesOfDigits? rest <;> rfl

theorem ofHexBytes?_hexBytes (bytes : List UInt8) : ofHexBytes? (hexBytes bytes) = some bytes := by
  rw [ofHexBytes?, hexBytes, String.toList_ofList]
  induction bytes with
  | nil => rfl
  | cons byte rest ih => rw [List.flatMap_cons, byteChars_read, ih, Option.map_some]

end ComputeHost.Text
