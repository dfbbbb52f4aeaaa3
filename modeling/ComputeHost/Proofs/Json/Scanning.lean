/-
**Scanning what was written.**

A value whose numbers are natural and whose strings are text (`Json.Plain`) is written as the
characters of its tokens (`Json.tokens`), one after the other, and scanning cuts them apart where
they were joined. Only a number has no end of its own: what follows it must not go on with it
(`Ends`).

* `scanText_chars` — a string is read back from its escapes.
* `scanNumber_ofNat` — a natural number is read back from its digits.
* `Plain.scans` — scanning what a value is written as gives its tokens, whatever follows.
-/

import ComputeHost.Json.Token
import ComputeHost.Json.Writer
import Mathlib.Data.List.Basic

namespace ComputeHost.Json

/-! ### Strings -/

/-- Characters are no halves of surrogate pairs. -/
theorem isHalf_toNat (c : Char) : isHigh c.toNat = false ∧ isLow c.toNat = false := by
  have valid : c.toNat < 0xd800 ∨ 0xdfff < c.toNat ∧ c.toNat < 0x110000 := c.valid
  simp only [isHigh, isLow, Bool.and_eq_false_iff, decide_eq_false_iff_not]
  omega

/-- Code points of characters stay apart. -/
theorem assemble_toNat (string : List Char) : assemble (string.map Char.toNat) = some string := by
  induction string with
  | nil => rfl
  | cons c rest ih =>
    obtain ⟨notHigh, notLow⟩ := isHalf_toNat c
    cases rest with
    | nil => simp [assemble, notHigh, notLow, Char.ofNat_toNat]
    | cons next rest =>
      simp only [List.map_cons] at ih ⊢
      rw [assemble]
      simp [notHigh, notLow, ih, Char.ofNat_toNat]

/-- A control character is read back from its number. -/
theorem hexUnit?_control {code : Nat} (control : code < 0x20) :
    hexUnit? '0' '0' (Nat.digitChar (code / 16)) (Nat.digitChar (code % 16)) = some code := by
  have zero : Text.hexDigit? '0' = some 0 := rfl
  unfold hexUnit?
  rw [zero, Text.hexDigit?_digitChar (by omega), Text.hexDigit?_digitChar (by omega)]
  simp only [Option.some.injEq]
  omega

/-- A character is read back from the letter that stands for it. -/
theorem scanText_escape {letter c : Char} (escaped : escape? letter = some c) (units : List Nat)
    (rest : List Char) :
    scanText units ('\\' :: letter :: rest) = scanText (c.toNat :: units) rest := by
  have other : letter ≠ 'u' := by
    rintro rfl
    cases escaped
  rw [scanText]
  · rw [escaped]
  · intro a b d e digits same
    exact absurd same other

/-- A character is read back from how it is written. -/
theorem scanText_textChar (c : Char) (units : List Nat) (rest : List Char) :
    scanText units (textChar c ++ rest) = scanText (c.toNat :: units) rest := by
  unfold textChar
  iterate 7
    split
    · rename_i same
      subst same
      exact scanText_escape rfl units rest
  split
  · rename_i control
    simp only [List.cons_append, List.nil_append]
    rw [scanText, hexUnit?_control control]
  · rename_i quote backslash _ _ _ _ _ visible
    simp only [List.cons_append, List.nil_append]
    rw [scanText]
    · rw [if_neg (by simp [backslash, visible])]
    · exact quote
    · intro a b d e digits same
      exact absurd same backslash
    · intro letter digits same
      exact absurd same backslash

/-- A string is read back up to its closing quote. -/
theorem scanText_chars (string : List Char) (units : List Nat) (rest : List Char) :
    scanText units (string.flatMap textChar ++ '"' :: rest) =
      some ((assemble (units.reverse ++ string.map Char.toNat)).map String.ofList, rest) := by
  induction string generalizing units with
  | nil => simp [scanText]
  | cons c more ih =>
    rw [List.flatMap_cons, List.append_assoc, scanText_textChar, ih]
    simp

theorem next?_textChars (string : String) (rest : List Char) :
    next? (textChars (some string) ++ rest) = some (.text (some string), rest) := by
  have scanned := scanText_chars string.toList [] rest
  rw [List.reverse_nil, List.nil_append, assemble_toNat, Option.map_some, String.ofList_toList]
    at scanned
  show next? ('"' :: (string.toList.flatMap textChar ++ ['"']) ++ rest) = _
  rw [List.cons_append, List.append_assoc, List.singleton_append, next?, scanned]
  rfl

/-! ### Numbers -/

/-- What follows a number does not go on with it. -/
def Ends (rest : List Char) : Prop :=
  ∀ c ∈ rest.head?, c.isDigit = false ∧ c ≠ '.' ∧ c ≠ 'e' ∧ c ≠ 'E'

theorem scanDigits_append {digits rest : List Char} (some_digit : digits ≠ [])
    (all : ∀ c ∈ digits, c.isDigit = true) (ends : Ends rest) :
    scanDigits (digits ++ rest) = some (digits, rest) := by
  have stops : rest.takeWhile Char.isDigit = [] ∧ rest.dropWhile Char.isDigit = rest := by
    cases rest with
    | nil => exact ⟨rfl, rfl⟩
    | cons c more =>
      have other := (ends c rfl).1
      simp [other]
  unfold scanDigits
  rw [List.takeWhile_append_of_pos all, List.dropWhile_append_of_pos all, stops.1, stops.2,
    List.append_nil]
  simp [some_digit]

/-- A number starts with a digit. -/
theorem toDigits_eq_cons (value : Nat) :
    ∃ c rest, Nat.toDigits 10 value = c :: rest ∧ c.isDigit = true := by
  obtain ⟨c, rest, same⟩ := List.exists_cons_of_ne_nil (Nat.toDigits_ne_nil (n := value) (b := 10))
  exact ⟨c, rest, same, Nat.isDigit_of_mem_toDigits (b := 10) (n := value) (by decide) (by decide)
    (same ▸ List.mem_cons_self)⟩

/-- A number other than zero does not start with the digit zero. -/
theorem head_toDigits {value : Nat} (positive : value ≠ 0) :
    ∃ c rest, Nat.toDigits 10 value = c :: rest ∧ c ≠ '0' := by
  induction value using Nat.strongRecOn with
  | ind value ih =>
    by_cases small : value < 10
    · refine ⟨Nat.digitChar value, [], Nat.toDigits_of_lt_base small, ?_⟩
      have digits : ∀ value < 10, value ≠ 0 → Nat.digitChar value ≠ '0' := by decide
      exact digits value small positive
    · obtain ⟨c, rest, same, other⟩ := ih (value / 10) (by omega) (by omega)
      refine ⟨c, rest ++ [Nat.digitChar (value % 10)], ?_, other⟩
      rw [Nat.toDigits_of_base_le (by decide) (by omega), same, List.cons_append]

theorem scanWhole_toDigits (value : Nat) {rest : List Char} (ends : Ends rest) :
    scanWhole (Nat.toDigits 10 value ++ rest) = some (Nat.toDigits 10 value, rest) := by
  by_cases zero : value = 0
  · rw [zero, Nat.toDigits_zero]
    rfl
  · obtain ⟨c, more, same, other⟩ := head_toDigits zero
    have digits : scanDigits (Nat.toDigits 10 value ++ rest) = some (Nat.toDigits 10 value, rest) :=
      scanDigits_append Nat.toDigits_ne_nil
        (fun _ => Nat.isDigit_of_mem_toDigits (by decide) (by decide)) ends
    rw [same, List.cons_append] at digits ⊢
    rw [scanWhole]
    · exact digits
    · intro more same
      exact absurd (List.cons.inj same).1 other

theorem chars_ofNat (value : Nat) : (Numeral.ofNat value).chars = Nat.toDigits 10 value := by
  simp [Numeral.chars, Numeral.ofNat]

/-- A natural number is read back from its digits. -/
theorem scanNumber_ofNat (value : Nat) {rest : List Char} (ends : Ends rest) :
    scanNumber ((Numeral.ofNat value).chars ++ rest) = some (Numeral.ofNat value, rest) := by
  have fraction : scanFraction rest = some ([], rest) := by
    unfold scanFraction
    split
    · exact absurd rfl (ends _ rfl).2.1
    · rfl
  have exponent : scanExponent rest = some (none, rest) := by
    unfold scanExponent
    split
    · exact absurd rfl (ends _ rfl).2.2.1
    · exact absurd rfl (ends _ rfl).2.2.2
    · rfl
  have unsigned : ((Nat.toDigits 10 value ++ rest).head? == some '-') = false := by
    obtain ⟨c, more, same, digit⟩ := toDigits_eq_cons value
    rw [same, List.cons_append, List.head?_cons]
    refine beq_eq_false_iff_ne.mpr fun minus => ?_
    rw [Option.some.inj minus] at digit
    cases digit
  rw [chars_ofNat]
  unfold scanNumber
  simp only [unsigned, Bool.false_eq_true, if_false, scanWhole_toDigits value ends,
    Option.bind_eq_bind, Option.bind_some, fraction, exponent]
  rfl

theorem next?_ofNat (value : Nat) {rest : List Char} (ends : Ends rest) :
    next? ((Numeral.ofNat value).chars ++ rest) = some (.number (Numeral.ofNat value), rest) := by
  have scanned := scanNumber_ofNat value ends
  obtain ⟨c, more, same, digit⟩ := toDigits_eq_cons value
  rw [chars_ofNat, same, List.cons_append] at scanned ⊢
  unfold next?
  split <;> first
    | (rename_i start; injection start with start; subst start; cases digit)
    | (rw [scanned]; rfl)

/-! ### Tokens -/

theorem tokensFrom_of_next? {c : Char} {rest after : List Char} {token : Token}
    (visible : isSpace c = false) (scanned : next? (c :: rest) = some (token, after))
    (found : List Token) : tokensFrom found (c :: rest) = tokensFrom (token :: found) after := by
  rw [tokensFrom]
  have start : (c :: rest).dropWhile isSpace = c :: rest := by
    rw [List.dropWhile_cons_of_neg (by simp [visible])]
  split
  · rename_i empty
    rw [start] at empty
    cases empty
  · rename_i first more same
    rw [start] at same
    cases same
    split
    · rename_i missing
      rw [scanned] at missing
      cases missing
    · rename_i other later here
      rw [scanned] at here
      cases here
      rfl

mutual

/-- The tokens of a value. -/
def tokens : Json → List Token
  | .null => [.null]
  | .bool truth => [.bool truth]
  | .number numeral => [.number numeral]
  | .text string => [.text string]
  | .array items => .openArray :: itemTokens items ++ [.closeArray]
  | .object members => .openObject :: memberTokens members ++ [.closeObject]

/-- The tokens of the items of an array. -/
def itemTokens : List Json → List Token
  | [] => []
  | [item] => tokens item
  | item :: next :: rest => tokens item ++ .comma :: itemTokens (next :: rest)

/-- The tokens of the members of an object. -/
def memberTokens : List (Option String × Json) → List Token
  | [] => []
  | [(key, value)] => .text key :: .colon :: tokens value
  | (key, value) :: next :: rest =>
    .text key :: .colon :: tokens value ++ .comma :: memberTokens (next :: rest)

end

/-- One member of an object. -/
def memberChar (member : Option String × Json) : List Char :=
  textChars member.1 ++ ':' :: chars member.2

/-- The tokens of one member of an object. -/
def memberToken (member : Option String × Json) : List Token :=
  .text member.1 :: .colon :: tokens member.2

theorem itemChars_eq (items : List Json) :
    itemChars items = [','].intercalate (items.map chars) := by
  induction items with
  | nil => rfl
  | cons item rest ih =>
    cases rest with
    | nil => simp [itemChars]
    | cons next more =>
      rw [itemChars, ih]
      simp

theorem itemTokens_eq (items : List Json) :
    itemTokens items = [Token.comma].intercalate (items.map tokens) := by
  induction items with
  | nil => rfl
  | cons item rest ih =>
    cases rest with
    | nil => simp [itemTokens]
    | cons next more =>
      rw [itemTokens, ih]
      simp

theorem memberChars_eq (members : List (Option String × Json)) :
    memberChars members = [','].intercalate (members.map memberChar) := by
  induction members with
  | nil => rfl
  | cons member rest ih =>
    cases rest with
    | nil => simp [memberChars, memberChar]
    | cons next more =>
      rw [memberChars, ih]
      simp [memberChar]

theorem memberTokens_eq (members : List (Option String × Json)) :
    memberTokens members = [Token.comma].intercalate (members.map memberToken) := by
  induction members with
  | nil => rfl
  | cons member rest ih =>
    cases rest with
    | nil => simp [memberTokens, memberToken]
    | cons next more =>
      rw [memberTokens, ih]
      simp [memberToken]

/-- All numbers are natural, and all strings are text. -/
inductive Plain : Json → Prop
  | null : Plain .null
  | bool (truth : Bool) : Plain (.bool truth)
  | number (value : Nat) : Plain (.number (Numeral.ofNat value))
  | text (string : String) : Plain (.text (some string))
  | array {items : List Json} : (∀ item ∈ items, Plain item) → Plain (.array items)
  | object {members : List (Option String × Json)} :
    (∀ member ∈ members, ∃ key, member.1 = some key) →
      (∀ member ∈ members, Plain member.2) → Plain (.object members)

/-! ### Scanning values -/

/-- Scanning the characters gives the tokens, and goes on behind them. -/
def Scans (chars : List Char) (tokens : List Token) : Prop :=
  ∀ (found : List Token) (rest : List Char), Ends rest →
    tokensFrom found (chars ++ rest) = tokensFrom (tokens.reverse ++ found) rest

theorem Scans.nil : Scans [] [] := fun _ _ _ => rfl

variable {cs ds : List Char} {ts us : List Token}

/-- What is scanned goes on with a character that ends every number. -/
theorem Scans.append (first : Scans cs ts) (second : Scans ds us)
    (ends : ∀ rest, Ends rest → Ends (ds ++ rest)) : Scans (cs ++ ds) (ts ++ us) := by
  intro found rest stop
  rw [List.append_assoc, first found _ (ends rest stop), second _ rest stop, List.reverse_append,
    List.append_assoc]

/-- A character that is a token by itself. -/
theorem Scans.cons {c : Char} {token : Token} (visible : isSpace c = false)
    (single : ∀ rest, next? (c :: rest) = some (token, rest)) (later : Scans ds us) :
    Scans (c :: ds) (token :: us) := by
  intro found rest stop
  rw [List.cons_append, tokensFrom_of_next? visible (single _), later _ rest stop,
    List.reverse_cons, List.append_assoc]
  rfl

/-- Values that are scanned by themselves are scanned with commas between them. -/
theorem Scans.intercalate {α : Type} {chars : α → List Char} {tokens : α → List Token}
    {parts : List α} (each : ∀ part ∈ parts, Scans (chars part) (tokens part)) :
    Scans ([','].intercalate (parts.map chars))
      ([Token.comma].intercalate (parts.map tokens)) := by
  induction parts with
  | nil => exact .nil
  | cons part rest ih =>
    obtain ⟨first, later⟩ := List.forall_mem_cons.mp each
    cases rest with
    | nil => simpa using first
    | cons next more =>
      have joined : Scans (',' :: [','].intercalate ((next :: more).map chars))
          (.comma :: [Token.comma].intercalate ((next :: more).map tokens)) :=
        (ih later).cons rfl fun _ => rfl
      have whole := first.append joined fun rest _ c member => by
        obtain rfl := Option.some.inj member
        decide
      simpa using whole

/-- What is scanned is scanned in brackets. -/
theorem Scans.bracket {left right : Char} {start stop : Token} (inner : Scans ds us)
    (visible : isSpace left = false) (opens : ∀ rest, next? (left :: rest) = some (start, rest))
    (visible' : isSpace right = false)
    (closes : ∀ rest, next? (right :: rest) = some (stop, rest))
    (ends : ∀ rest, Ends (right :: rest)) :
    Scans (left :: ds ++ [right]) (start :: us ++ [stop]) :=
  (inner.append (Scans.nil.cons visible' closes) fun rest _ => ends rest).cons visible opens

theorem scans_text (string : String) : Scans (textChars (some string)) [.text (some string)] := by
  intro found rest _
  have scanned := next?_textChars string rest
  exact tokensFrom_of_next? rfl scanned found

theorem scans_number (value : Nat) :
    Scans (Numeral.ofNat value).chars [.number (Numeral.ofNat value)] := by
  intro found rest stop
  have scanned := next?_ofNat value stop
  obtain ⟨c, more, same, digit⟩ := toDigits_eq_cons value
  have visible : isSpace c = false := by
    refine Bool.eq_false_iff.mpr fun space => ?_
    simp only [isSpace, Bool.or_eq_true, beq_iff_eq] at space
    rcases space with ((rfl | rfl) | rfl) | rfl <;> cases digit
  rw [chars_ofNat, same, List.cons_append] at scanned ⊢
  exact tokensFrom_of_next? visible scanned found

/-- **Scanning what a value is written as** gives its tokens. -/
theorem Plain.scans {value : Json} (plain : Plain value) : Scans (chars value) (tokens value) := by
  induction plain with
  | null => exact fun found rest _ => tokensFrom_of_next? rfl rfl found
  | bool truth =>
    cases truth <;> exact fun found rest _ => tokensFrom_of_next? rfl rfl found
  | number value => exact scans_number value
  | text string => exact scans_text string
  | array _ ih =>
    rw [chars, tokens, itemChars_eq, itemTokens_eq]
    exact (Scans.intercalate ih).bracket rfl (fun _ => rfl) rfl (fun _ => rfl)
      fun rest c member => by
      obtain rfl := Option.some.inj member
      decide
  | object keyed _ ih =>
    rw [chars, tokens, memberChars_eq, memberTokens_eq]
    refine (Scans.intercalate fun member among => ?_).bracket rfl (fun _ => rfl) rfl (fun _ => rfl)
      fun rest c member => by
        obtain rfl := Option.some.inj member
        decide
    obtain ⟨key, named⟩ := keyed member among
    unfold memberChar memberToken
    rw [named]
    refine (scans_text key).append ((ih member among).cons rfl fun _ => rfl)
      fun rest _ c first => ?_
    obtain rfl := Option.some.inj first
    decide

/-- The tokens of a document are those of its value. -/
theorem tokens?_compact {value : Json} (plain : Plain value) :
    tokens? (compact value).toList = some (tokens value) := by
  have scanned := plain.scans [] [] nofun
  rw [List.append_nil, List.append_nil] at scanned
  rw [compact, String.toList_ofList, tokens?, scanned, tokensFrom]
  simp

end ComputeHost.Json
