/-
**JSON tokens.**

Scanning cuts a document into punctuation, literals, numbers and strings, with the blanks between
them dropped. It fails where no token starts or a token breaks off. It keeps to the grammar of JSON:
there are four blanks, a control character in a string stands as an escape, and a number has no
leading zero and has digits on both sides of its point.

* `scanText_shorter`, `scanNumber_shorter`, `next?_shorter` — every token takes characters, so
  scanning ends.
-/

import ComputeHost.Json.Basic
import ComputeHost.Text.Hex

namespace ComputeHost.Json

/-- A token of a JSON document. -/
inductive Token
  | openArray
  | closeArray
  | openObject
  | closeObject
  | comma
  | colon
  | null
  | bool (value : Bool)
  | number (value : Numeral)
  | text (value : Option String)

/-- Characters that may stand between tokens. -/
def isSpace (c : Char) : Bool := c == ' ' || c == '\t' || c == '\n' || c == '\r'

/-! ### Strings -/

/-- The unit that four hexadecimal digits denote. -/
def hexUnit? (a b c d : Char) : Option Nat :=
  match Text.hexDigit? a, Text.hexDigit? b, Text.hexDigit? c, Text.hexDigit? d with
  | some a, some b, some c, some d => some (((a * 16 + b) * 16 + c) * 16 + d)
  | _, _, _, _ => none

/-- The character that an escape of one letter denotes. -/
def escape? : Char → Option Char
  | '"' => some '"'
  | '\\' => some '\\'
  | '/' => some '/'
  | 'b' => some '\x08'
  | 'f' => some '\x0c'
  | 'n' => some '\n'
  | 'r' => some '\r'
  | 't' => some '\t'
  | _ => none

/-- Whether the unit is the first half of a surrogate pair. -/
def isHigh (unit : Nat) : Bool := 0xD800 ≤ unit && unit ≤ 0xDBFF

/-- Whether the unit is the second half of a surrogate pair. -/
def isLow (unit : Nat) : Bool := 0xDC00 ≤ unit && unit ≤ 0xDFFF

/-- Code points from units: halves of a surrogate pair that follow each other become one, and a
half left alone makes the whole denote nothing. -/
def assemble : List Nat → Option (List Char)
  | [] => some []
  | high :: low :: rest =>
    if isHigh high && isLow low then
      (Char.ofNat (0x10000 + (high - 0xD800) * 0x400 + (low - 0xDC00)) :: ·) <$> assemble rest
    else if isHigh high || isLow high then none
    else (Char.ofNat high :: ·) <$> assemble (low :: rest)
  | [unit] => if isHigh unit || isLow unit then none else some [Char.ofNat unit]

/-- The rest of a string after its opening quote, with the units before in reverse: what the string
denotes, and the characters after its closing quote. -/
def scanText (units : List Nat) : List Char → Option (Option String × List Char)
  | '"' :: rest => some ((assemble units.reverse).map String.ofList, rest)
  | '\\' :: 'u' :: a :: b :: c :: d :: rest =>
    match hexUnit? a b c d with
    | some unit => scanText (unit :: units) rest
    | none => none
  | '\\' :: letter :: rest =>
    match escape? letter with
    | some c => scanText (c.toNat :: units) rest
    | none => none
  | c :: rest =>
    if c = '\\' || c.toNat < 0x20 then none else scanText (c.toNat :: units) rest
  | [] => none

/-! ### Numbers -/

/-- The digits in front and the characters after them, or nothing if there is no digit. -/
def scanDigits (chars : List Char) : Option (List Char × List Char) :=
  let digits := chars.takeWhile Char.isDigit
  if digits.isEmpty then none else some (digits, chars.dropWhile Char.isDigit)

/-- The digits in front of the point: a lone zero, or digits that do not start with zero. -/
def scanWhole : List Char → Option (List Char × List Char)
  | '0' :: rest => some (['0'], rest)
  | chars => scanDigits chars

/-- The digits behind a point, or no digits where no point stands. -/
def scanFraction : List Char → Option (List Char × List Char)
  | '.' :: rest => scanDigits rest
  | chars => some ([], chars)

/-- The exponent after its letter: a sign or none, and digits. -/
def scanPower (chars : List Char) : Option ((Bool × List Char) × List Char) :=
  let negative := chars.head? == some '-'
  let signed := negative || chars.head? == some '+'
  (scanDigits (if signed then chars.drop 1 else chars)).map fun (digits, rest) =>
    ((negative, digits), rest)

/-- The exponent, or none where no letter `e` stands. -/
def scanExponent : List Char → Option (Option (Bool × List Char) × List Char)
  | 'e' :: rest | 'E' :: rest => (scanPower rest).map fun (power, rest) => (some power, rest)
  | chars => some (none, chars)

/-- A number and the characters after it. -/
def scanNumber (chars : List Char) : Option (Numeral × List Char) := do
  let negative := chars.head? == some '-'
  let (whole, rest) ← scanWhole (if negative then chars.drop 1 else chars)
  let (fraction, rest) ← scanFraction rest
  let (exponent, rest) ← scanExponent rest
  pure (⟨negative, whole, fraction, exponent⟩, rest)

/-! ### Documents -/

/-- The first token of characters that do not start with a blank, and the characters after it. -/
def next? : List Char → Option (Token × List Char)
  | '[' :: rest => some (.openArray, rest)
  | ']' :: rest => some (.closeArray, rest)
  | '\x7b' :: rest => some (.openObject, rest)
  | '\x7d' :: rest => some (.closeObject, rest)
  | ',' :: rest => some (.comma, rest)
  | ':' :: rest => some (.colon, rest)
  | 'n' :: 'u' :: 'l' :: 'l' :: rest => some (.null, rest)
  | 't' :: 'r' :: 'u' :: 'e' :: rest => some (.bool true, rest)
  | 'f' :: 'a' :: 'l' :: 's' :: 'e' :: rest => some (.bool false, rest)
  | '"' :: rest => (scanText [] rest).map fun (value, rest) => (.text value, rest)
  | chars => (scanNumber chars).map fun (value, rest) => (.number value, rest)

theorem scanText_shorter {units : List Nat} {chars rest : List Char} {value : Option String}
    (found : scanText units chars = some (value, rest)) : rest.length < chars.length := by
  fun_induction scanText units chars with
  | case1 => simp_all
  | case2 _ _ _ _ _ _ _ _ ih => have := ih found; simp only [List.length_cons]; omega
  | case4 _ _ _ _ _ _ ih => have := ih found; simp only [List.length_cons]; omega
  | case7 _ _ _ _ _ _ _ ih => have := ih found; simp only [List.length_cons]; omega
  | case3 | case5 | case6 | case8 => cases found

theorem scanDigits_shorter {chars digits rest : List Char}
    (found : scanDigits chars = some (digits, rest)) : rest.length < chars.length := by
  simp only [scanDigits] at found
  split at found
  · cases found
  · rename_i some_digit
    simp only [Option.some.injEq, Prod.mk.injEq] at found
    have parts := congrArg List.length
      (List.takeWhile_append_dropWhile (p := Char.isDigit) (l := chars))
    have positive : 0 < (chars.takeWhile Char.isDigit).length := by
      rw [List.length_pos_iff]; simpa using some_digit
    rw [List.length_append] at parts
    rw [← found.2]
    omega

theorem scanWhole_shorter {chars digits rest : List Char}
    (found : scanWhole chars = some (digits, rest)) : rest.length < chars.length := by
  unfold scanWhole at found
  split at found
  · simp_all
  · exact scanDigits_shorter found

theorem scanFraction_le {chars digits rest : List Char}
    (found : scanFraction chars = some (digits, rest)) : rest.length ≤ chars.length := by
  unfold scanFraction at found
  split at found
  · have := scanDigits_shorter found
    simp only [List.length_cons]
    omega
  · simp_all

theorem scanPower_le {chars rest : List Char} {power : Bool × List Char}
    (found : scanPower chars = some (power, rest)) : rest.length ≤ chars.length := by
  simp only [scanPower, Option.map_eq_some_iff] at found
  obtain ⟨⟨digits, after⟩, scanned, same⟩ := found
  have shorter := scanDigits_shorter scanned
  simp only [Prod.mk.injEq] at same
  rw [← same.2]
  split at shorter
  · simp only [List.length_drop] at shorter; omega
  · omega

theorem scanExponent_le {chars rest : List Char} {exponent : Option (Bool × List Char)}
    (found : scanExponent chars = some (exponent, rest)) : rest.length ≤ chars.length := by
  unfold scanExponent at found
  split at found
  · simp only [Option.map_eq_some_iff] at found
    obtain ⟨⟨power, after⟩, scanned, same⟩ := found
    have := scanPower_le scanned
    simp_all only [Prod.mk.injEq, List.length_cons]
    omega
  · simp only [Option.map_eq_some_iff] at found
    obtain ⟨⟨power, after⟩, scanned, same⟩ := found
    have := scanPower_le scanned
    simp_all only [Prod.mk.injEq, List.length_cons]
    omega
  · simp_all

theorem scanNumber_shorter {chars rest : List Char} {value : Numeral}
    (found : scanNumber chars = some (value, rest)) : rest.length < chars.length := by
  simp only [scanNumber, Option.bind_eq_bind, Option.bind_eq_some_iff, Prod.exists] at found
  obtain ⟨whole, afterWhole, foundWhole, fraction, afterFraction, foundFraction, exponent,
    afterExponent, foundExponent, same⟩ := found
  have first := scanWhole_shorter foundWhole
  have second := scanFraction_le foundFraction
  have third := scanExponent_le foundExponent
  simp only [Option.pure_def, Option.some.injEq, Prod.mk.injEq] at same
  rw [← same.2]
  split at first
  · simp only [List.length_drop] at first; omega
  · omega

theorem next?_shorter {chars rest : List Char} {token : Token}
    (found : next? chars = some (token, rest)) : rest.length < chars.length := by
  unfold next? at found
  split at found
  case h_10 =>
    simp only [Option.map_eq_some_iff, Prod.exists] at found
    obtain ⟨value, after, scanned, same⟩ := found
    have := scanText_shorter scanned
    simp_all only [Prod.mk.injEq, List.length_cons]
    omega
  case h_11 =>
    simp only [Option.map_eq_some_iff, Prod.exists] at found
    obtain ⟨value, after, scanned, same⟩ := found
    have := scanNumber_shorter scanned
    simp_all only [Prod.mk.injEq]
  all_goals
    simp only [Option.some.injEq, Prod.mk.injEq] at found
    rw [← found.2]
    simp only [List.length_cons]
    omega

/-- The tokens of the characters, after those already found (the last one first). -/
def tokensFrom (found : List Token) (chars : List Char) : Option (List Token) :=
  match _start : chars.dropWhile isSpace with
  | [] => some found.reverse
  | c :: rest =>
    match _scanned : next? (c :: rest) with
    | none => none
    | some (token, after) => tokensFrom (token :: found) after
termination_by chars.length
decreasing_by
  have taken := next?_shorter _scanned
  have kept := (List.dropWhile_suffix isSpace (l := chars)).length_le
  rw [_start] at kept
  omega

/-- The tokens of a document. -/
def tokens? (chars : List Char) : Option (List Token) := tokensFrom [] chars

end ComputeHost.Json
