/-
**Declarations and their JSON values.**

A kernel or a global variable whose sizes and alignments are words of 64 bits (`InWords`) is read
back from the JSON value that stands for it.

* `Numeral.isFinite_ofNat` — a word is finite as a double, so a type that has it can be held while
  its kind is looked for.
* `readType?_toJson`, `readParameter?_toJson`, `readKernel?_toJson`, `readGlobal?_toJson` — reading
  undoes writing, for one kind of declaration after the other.
* `Document.ofJson?_toJson` — and so for a whole document.
-/

import ComputeHost.Module.Document
import ComputeHost.Proofs.Json.Scanning

namespace ComputeHost

/-! ### Words -/

namespace Numeral

theorem le_ofDigitChars (value : Nat) (digits : List Char) :
    value ≤ Nat.ofDigitChars 10 digits value := by
  induction digits generalizing value with
  | nil => exact Nat.le_refl _
  | cons digit rest ih =>
    have longer := ih (10 * value + (digit.toNat - '0'.toNat))
    rw [Nat.ofDigitChars_cons]
    omega

/-- A word holds all its digits. -/
theorem leading_of_lt {value : Nat} {digits : List Char}
    (small : Nat.ofDigitChars 10 digits value < UInt64.size) :
    leading value digits = (Nat.ofDigitChars 10 digits value, 0) := by
  induction digits generalizing value with
  | nil => rfl
  | cons digit rest ih =>
    have longer : Nat.ofDigitChars 10 (digit :: rest) value =
        Nat.ofDigitChars 10 rest (Nat.ofDigitChars 10 [digit] value) := by
      rw [Nat.ofDigitChars_cons, Nat.ofDigitChars_cons, Nat.ofDigitChars_nil]
    rw [longer] at small ⊢
    have first := le_ofDigitChars (Nat.ofDigitChars 10 [digit] value) rest
    unfold leading
    rw [if_pos (by omega)]
    exact ih small

/-- A word is far from the largest double. -/
theorem nearest_lt_overflow {value : Nat} (small : value < UInt64.size) :
    Double.nearest value < Double.overflow := by
  by_cases zero : value = 0
  · rw [zero]
    decide +kernel
  · have error := (Double.nearest_error value).1
    have coarse : Double.unit value ≤ value := by
      unfold Double.unit
      rw [Nat.one_shiftLeft]
      exact Nat.le_trans (Nat.pow_le_pow_right (by decide) (Nat.sub_le _ _)) (Nat.log2_self_le zero)
    have room : 2 * UInt64.size < Double.overflow := by decide +kernel
    omega

/-- Words are finite as doubles. -/
theorem isFinite_ofNat {value : Nat} (small : value < UInt64.size) :
    (ofNat value).isFinite = true := by
  have digits : leading 0 ((ofNat value).whole ++ (ofNat value).fraction) = (value, 0) := by
    have whole : Nat.ofDigitChars 10 (Nat.toDigits 10 value) 0 = value :=
      Nat.ofDigitChars_ten_toDigits
    show leading 0 (Nat.toDigits 10 value ++ []) = _
    rw [List.append_nil, leading_of_lt (by rwa [whole]), whole]
  have one : Double.nearest (Nat.pow 10 0) = 1 := by decide
  unfold isFinite
  rw [digits]
  show (value == 0 || (decide (0 ≤ 308) &&
    decide (Double.nearest value * Double.nearest (Nat.pow 10 0) < Double.overflow))) = true
  rw [one, Nat.mul_one, decide_eq_true (nearest_lt_overflow small)]
  simp

end Numeral

/-! ### What fits the words of a device -/

/-- The size and the alignment of a parameter are words. -/
def Parameter.InWords (parameter : Parameter) : Prop :=
  parameter.size < UInt64.size ∧ parameter.alignment < UInt64.size

/-- All sizes and alignments of a document are words. -/
structure Document.InWords (document : Document) : Prop where
  parameters : ∀ kernel ∈ document.kernels, ∀ parameter ∈ kernel.parameters, parameter.InWords
  globals : ∀ global ∈ document.globals, global.size < UInt64.size

namespace Document

open Json

/-! ### Parts of values -/

theorem natural?_number {value limit : Nat} (small : value < limit) :
    (number value).natural? limit = some value := by
  show (Numeral.ofNat value).natural?.filter (fun value => value < limit) = some value
  rw [Numeral.natural?_ofNat]
  simp [small]

/-- A list is read back if all its items are. -/
theorem list?_map {α : Type} {write : α → Json} {read : Json → Option α} {items : List α}
    (each : ∀ item ∈ items, read (write item) = some item) :
    list? read (.array (items.map write)) = some items := by
  unfold list?
  simp only
  induction items with
  | nil => rfl
  | cons item rest ih =>
    obtain ⟨first, later⟩ := List.forall_mem_cons.mp each
    rw [List.map_cons, List.mapM_cons, first, ih later]
    rfl

end Document

open Document

/-! ### Declarations -/

/-- A type can be held while its kind is looked for. -/
theorem isHeld_toJson {type : ParameterType} (size : type.size < UInt64.size)
    (alignment : type.alignment < UInt64.size) : type.toJson.isHeld typeDepth = true := by
  cases type with
  | scalar | devicePtr => rfl
  | bytes bytes align =>
    have first : (Numeral.ofNat bytes).isFinite = true := Numeral.isFinite_ofNat size
    have second : (Numeral.ofNat align).isFinite = true := Numeral.isFinite_ofNat alignment
    simp [ParameterType.toJson, object, string, number, typeDepth, Json.isHeld, first, second]

theorem readType?_toJson {type : ParameterType} (size : type.size < UInt64.size)
    (alignment : type.alignment < UInt64.size) : readType? type.toJson = some type := by
  have held := isHeld_toJson size alignment
  unfold readType?
  rw [if_pos held]
  cases type with
  | scalar type =>
    exact congrArg (Option.map ParameterType.scalar) (ScalarType.ofName?_name type)
  | devicePtr => rfl
  | bytes bytes align =>
    have first : (number bytes).natural? sizeLimit = some bytes := natural?_number size
    have second : (number align).natural? sizeLimit = some align := natural?_number alignment
    show (do
      return ParameterType.bytes (← (number bytes).natural? sizeLimit)
        (← (number align).natural? sizeLimit)) = some (ParameterType.bytes bytes align)
    rw [first, second]
    rfl

theorem readParameter?_toJson {parameter : Parameter} (words : parameter.InWords) :
    readParameter? parameter.toJson = some parameter := by
  show (do
    return Parameter.mk parameter.name (← readType? parameter.type.toJson)) = some parameter
  rw [readType?_toJson words.1 words.2]
  rfl

theorem readKernel?_toJson {kernel : KernelSignature}
    (words : ∀ parameter ∈ kernel.parameters, parameter.InWords) :
    readKernel? kernel.toJson = some kernel := by
  show (do
    return KernelSignature.mk kernel.name
      (← Json.list? readParameter? (.array (kernel.parameters.map Parameter.toJson)))) = some kernel
  rw [list?_map fun parameter member => readParameter?_toJson (words parameter member)]
  rfl

theorem readByte?_number (byte : UInt8) : readByte? (number byte.toNat) = some byte := by
  unfold readByte?
  rw [natural?_number byte.toNat_lt, Option.map_some, UInt8.ofNat_toNat]

theorem readGlobal?_toJson {global : GlobalVariable} (words : global.size < UInt64.size) :
    readGlobal? global.toJson = some global := by
  have size : (number global.size).natural? sizeLimit = some global.size := natural?_number words
  obtain ⟨name, length, initial⟩ := global
  cases initial with
  | none =>
    show (do
      return GlobalVariable.mk name (← (number length).natural? sizeLimit) none) = _
    rw [size]
    rfl
  | some bytes =>
    show (do
      return GlobalVariable.mk name (← (number length).natural? sizeLimit)
        (← (Json.list? readByte? (.array (bytes.map fun byte : UInt8 => number byte.toNat))).map
          some)) = _
    rw [size, list?_map fun byte _ => readByte?_number byte]
    rfl

/-- The document as a JSON value. -/
def Document.toJson (document : Document) : Json :=
  object
    [("kernels", .array (document.kernels.map KernelSignature.toJson)),
      ("globals", .array (document.globals.map GlobalVariable.toJson))]

/-- **A document** is read back from its JSON value. -/
theorem Document.ofJson?_toJson {document : Document} (words : document.InWords) :
    ofJson? document.toJson = some document := by
  show (do
    return Document.mk
      (← Json.list? readKernel? (.array (document.kernels.map KernelSignature.toJson)))
      (← Json.list? readGlobal? (.array (document.globals.map GlobalVariable.toJson)))) =
    some document
  rw [list?_map fun kernel member => readKernel?_toJson (words.parameters kernel member),
    list?_map fun global member => readGlobal?_toJson (words.globals global member)]
  rfl

/-! ### The values are plain -/

theorem plain_object {members : List (String × Json)} (each : ∀ member ∈ members, member.2.Plain) :
    (object members).Plain := by
  refine .object (fun member among => ?_) fun member among => ?_
  · obtain ⟨⟨name, value⟩, _, rfl⟩ := List.mem_map.mp among
    exact ⟨name, rfl⟩
  · obtain ⟨⟨name, value⟩, listed, rfl⟩ := List.mem_map.mp among
    exact each _ listed

/-- A list of plain values. -/
theorem plain_array {α : Type} {write : α → Json} (items : List α)
    (each : ∀ item, (write item).Plain) : (Json.array (items.map write)).Plain := by
  refine .array fun value among => ?_
  obtain ⟨item, _, rfl⟩ := List.mem_map.mp among
  exact each item

theorem ParameterType.plain_toJson (type : ParameterType) : type.toJson.Plain := by
  cases type with
  | scalar type =>
    refine plain_object ?_
    simp only [List.forall_mem_cons]
    exact ⟨.text _, .text _, nofun⟩
  | devicePtr =>
    refine plain_object ?_
    simp only [List.forall_mem_cons]
    exact ⟨.text _, nofun⟩
  | bytes size alignment =>
    refine plain_object ?_
    simp only [List.forall_mem_cons]
    exact ⟨.text _, .number _, .number _, nofun⟩

theorem Parameter.plain_toJson (parameter : Parameter) : parameter.toJson.Plain := by
  refine plain_object ?_
  simp only [List.forall_mem_cons]
  exact ⟨.text _, parameter.type.plain_toJson, nofun⟩

theorem KernelSignature.plain_toJson (kernel : KernelSignature) : kernel.toJson.Plain := by
  refine plain_object ?_
  simp only [List.forall_mem_cons]
  exact ⟨.text _, plain_array _ Parameter.plain_toJson, nofun⟩

theorem GlobalVariable.plain_toJson (global : GlobalVariable) : global.toJson.Plain := by
  refine plain_object ?_
  rw [List.forall_mem_append]
  simp only [List.forall_mem_cons]
  refine ⟨⟨.text _, .number _, nofun⟩, fun member among => ?_⟩
  obtain ⟨bytes, _, rfl⟩ := List.mem_map.mp among
  exact plain_array bytes fun _ => .number _

theorem Document.plain_toJson (document : Document) : document.toJson.Plain := by
  refine plain_object ?_
  simp only [List.forall_mem_cons]
  exact ⟨plain_array _ KernelSignature.plain_toJson, plain_array _ GlobalVariable.plain_toJson,
    nofun⟩

end ComputeHost
