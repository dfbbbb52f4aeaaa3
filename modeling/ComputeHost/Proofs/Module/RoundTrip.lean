/-
**Module texts.**

A text is put together from the compact JSON of kernels and global variables (`Document.text`). If
these obey the rules for modules (`Document.Lawful`), reading the text gives them back, and putting
these together again gives the text.

* `Document.firstDefect?_eq_none_iff` — the rules are what a module is checked for.
* `Document.text_eq` — the text is the compact JSON of the whole document.
* `KernelModule.parse_text` — reading and writing are inverse.
-/

import ComputeHost.Module.Basic
import ComputeHost.Proofs.Json.RoundTrip
import ComputeHost.Proofs.Module.Declarations
import Mathlib.Algebra.Group.Nat.Defs

namespace ComputeHost

namespace Document

/-! ### The rules for modules -/

/-- The rules for modules: kernel names differ, every parameter takes some bytes and is aligned to a
power of two, names of global variables differ, and initial contents are no longer than the
variable. -/
structure Lawful (document : Document) : Prop where
  kernels : (document.kernels.map KernelSignature.name).Nodup
  parameters : ∀ kernel ∈ document.kernels, ∀ parameter ∈ kernel.parameters,
    parameter.size ≠ 0 ∧ ∃ exponent, parameter.alignment = 2 ^ exponent
  globals : (document.globals.map GlobalVariable.name).Nodup
  initials : ∀ global ∈ document.globals, ∀ bytes, global.initial = some bytes →
    bytes.length ≤ global.size

theorem isPowerOfTwo_iff {value : Nat} :
    isPowerOfTwo value = true ↔ ∃ exponent, value = 2 ^ exponent := by
  unfold isPowerOfTwo
  rw [Nat.one_shiftLeft, beq_iff_eq]
  constructor
  · exact fun same => ⟨value.log2, same.symm⟩
  · rintro ⟨exponent, rfl⟩
    rw [Nat.log2_two_pow]

theorem isPlaceable_iff {parameter : Parameter} :
    isPlaceable parameter = true ↔
      parameter.size ≠ 0 ∧ ∃ exponent, parameter.alignment = 2 ^ exponent := by
  unfold isPlaceable
  rw [Bool.and_eq_true, isPowerOfTwo_iff, decide_eq_true_eq]

theorem fitsInitial_iff {global : GlobalVariable} :
    fitsInitial global = true ↔
      ∀ bytes, global.initial = some bytes → bytes.length ≤ global.size := by
  unfold fitsInitial
  cases global.initial <;> simp

/-- **A document has no defect** exactly if it obeys the rules. -/
theorem firstDefect?_eq_none_iff {document : Document} :
    document.firstDefect? = none ↔ document.Lawful := by
  unfold firstDefect?
  rw [Option.or_eq_none_iff, kernelDefect?_eq_none_iff, globalDefect?_eq_none_iff]
  simp only [AreFresh, isPlaceable_iff, fitsInitial_iff]
  constructor
  · rintro ⟨⟨⟨kernels, _⟩, parameters⟩, ⟨globals, _⟩, initials⟩
    exact ⟨kernels, parameters, globals, initials⟩
  · rintro ⟨kernels, parameters, globals, initials⟩
    exact ⟨⟨⟨kernels, nofun⟩, parameters⟩, ⟨globals, nofun⟩, initials⟩

/-! ### Putting a text together -/

/-- The text with these kernels and global variables, each in compact JSON. -/
def text (document : Document) : String :=
  "\x7b\"kernels\":[" ++ ",".intercalate (document.kernels.map KernelSignature.json) ++
    "],\"globals\":[" ++ ",".intercalate (document.globals.map GlobalVariable.json) ++ "]\x7d"

/-- Compact values with commas between them are those of an array. -/
theorem toList_intercalate_compact {α : Type} (items : List α) (write : α → Json) :
    (",".intercalate (items.map fun item => (write item).compact)).toList =
      Json.itemChars (items.map write) := by
  have written : String.toList ∘ (fun item => (write item).compact) = Json.chars ∘ write := by
    funext item
    exact String.toList_ofList
  rw [String.toList_intercalate, Json.itemChars_eq, List.map_map, List.map_map, written]
  rfl

/-- The text is the compact JSON of the document. -/
theorem text_eq (document : Document) : document.text = document.toJson.compact := by
  have kernels := toList_intercalate_compact document.kernels KernelSignature.toJson
  have globals := toList_intercalate_compact document.globals GlobalVariable.toJson
  have first : Json.textChars (some "kernels") = "\"kernels\"".toList := by decide
  have second : Json.textChars (some "globals") = "\"globals\"".toList := by decide
  refine String.toList_inj.mp ?_
  show document.text.toList = (String.ofList (Json.chars document.toJson)).toList
  rw [String.toList_ofList]
  unfold text
  simp only [String.toList_append]
  rw [show (document.kernels.map KernelSignature.json) =
      document.kernels.map (fun kernel => kernel.toJson.compact) from rfl,
    show (document.globals.map GlobalVariable.json) =
      document.globals.map (fun global => global.toJson.compact) from rfl, kernels, globals]
  simp only [toJson, object, List.map_cons, List.map_nil, Json.chars, Json.memberChars, first,
    second]
  simp

end Document

/-- **Reading a text that was put together from declarations** gives these declarations, under
whatever name the module is read. -/
theorem KernelModule.parse_text (name : String) {document : Document} (lawful : document.Lawful)
    (words : document.InWords) :
    ∃ module, KernelModule.parse name document.text = .ok module ∧
      module.kernels = document.kernels ∧ module.globals = document.globals ∧
      Document.text ⟨module.kernels, module.globals⟩ = document.text := by
  refine ⟨⟨name, document.kernels, document.globals, document.text⟩, ?_, rfl, rfl, rfl⟩
  refine KernelModule.parse_eq_ok_iff.mpr
    ⟨document, ?_, Document.firstDefect?_eq_none_iff.mpr lawful, rfl⟩
  unfold Document.ofText?
  rw [Document.text_eq, Json.ofText?_compact document.plain_toJson, Option.bind_some,
    Document.ofJson?_toJson words]

/-- Names that have to be escaped, every kind of parameter, and the largest sizes. -/
def Document.oddities : Document where
  kernels :=
    [⟨"a\"b\\c/\n\x01é😀",
      [⟨"", .scalar .u8⟩, ⟨"\t", .devicePtr⟩,
        ⟨"q", .bytes 18446744073709551615 9223372036854775808⟩]⟩, ⟨"", []⟩]
  globals := [⟨"\x00\x1f\x7f", 18446744073709551615, some [0, 255]⟩, ⟨"g", 0, none⟩]

theorem KernelModule.parse_text_oddities :
    Document.oddities.Lawful ∧ Document.oddities.InWords ∧
      ∃ module, KernelModule.parse "m" Document.oddities.text = .ok module ∧
        module.kernels = Document.oddities.kernels ∧ module.globals = Document.oddities.globals ∧
        Document.text ⟨module.kernels, module.globals⟩ = Document.oddities.text := by
  have lawful : Document.oddities.Lawful := by
    refine ⟨by decide, ?_, by decide, by decide⟩
    simp only [← Document.isPlaceable_iff]
    decide +kernel
  have words : Document.oddities.InWords := by
    refine ⟨?_, by decide⟩
    simp only [Parameter.InWords]
    decide +kernel
  exact ⟨lawful, words, KernelModule.parse_text "m" lawful words⟩

end ComputeHost
