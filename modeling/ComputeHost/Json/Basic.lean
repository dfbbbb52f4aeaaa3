/-
**JSON values.**

A document is kept as it was written: members in their order and with repetitions, numbers as
their digits. A string whose escapes leave half of a surrogate pair is valid JSON, but it denotes
no text.

* `natural?_ofNat` — a natural number written in decimal is read back.
-/

import ComputeHost.Json.Double

namespace ComputeHost

/-- A number as it is written in JSON. -/
structure Numeral where
  negative : Bool
  /-- The digits in front of the point. -/
  whole : List Char
  /-- The digits behind the point; none if there is no point. -/
  fraction : List Char
  /-- Whether the exponent is negative, and its digits. -/
  exponent : Option (Bool × List Char)
  deriving DecidableEq

namespace Numeral

/-- The number that digits denote. -/
def ofDigits (digits : List Char) : Nat := Nat.ofDigitChars 10 digits 0

/-- A natural number in decimal. -/
def ofNat (value : Nat) : Numeral := ⟨false, Nat.toDigits 10 value, [], none⟩

/-- The natural number, if it is written without sign, point and exponent. -/
def natural? : Numeral → Option Nat
  | ⟨false, whole, [], none⟩ => some (ofDigits whole)
  | _ => none

/-- The number that the digits of an exponent denote, cut off at a bound that is far beyond every
double. -/
def ofExponent (digits : List Char) : Nat :=
  digits.foldl (fun value digit => min (Nat.ofDigitChars 10 [digit] value) (1 <<< 31)) 0

/-- The power of ten that the digits, read as one integer, are to be multiplied with. -/
def scale (numeral : Numeral) : Int :=
  match numeral.exponent with
  | none => -(numeral.fraction.length : Int)
  | some (true, digits) => -(ofExponent digits : Int) - numeral.fraction.length
  | some (false, digits) => (ofExponent digits : Int) - numeral.fraction.length

/-- The number that the first digits add to `value`, as many of them as a word of 64 bits holds, and
how many digits follow them. -/
def leading (value : Nat) : List Char → Nat × Nat
  | [] => (value, 0)
  | digit :: rest =>
    let longer := Nat.ofDigitChars 10 [digit] value
    if longer < UInt64.size then leading longer rest else (value, rest.length + 1)

/-- Whether the number is finite as a double. It is read as a product: its leading digits and the
power of ten are each taken to the nearest double, and the digits behind the leading ones count as
zeros. -/
def isFinite (numeral : Numeral) : Bool :=
  let (value, left) := leading 0 (numeral.whole ++ numeral.fraction)
  match numeral.scale + left with
  | .ofNat power =>
    value == 0 ||
      (power ≤ 308 && Double.nearest value * Double.nearest (Nat.pow 10 power) < Double.overflow)
  | .negSucc _ => true

theorem natural?_ofNat (value : Nat) : (ofNat value).natural? = some value := by
  simp [ofNat, natural?, ofDigits, Nat.ofDigitChars_toDigits]

end Numeral

/-- A JSON value. -/
inductive Json
  | null
  | bool (value : Bool)
  | number (value : Numeral)
  /-- A string; `none` if it denotes no text. -/
  | text (value : Option String)
  | array (items : List Json)
  | object (members : List (Option String × Json))

end ComputeHost
