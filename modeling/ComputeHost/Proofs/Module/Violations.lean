/-
**The first violation of a document.**

A document can break the rules for modules at several places: a name comes again, a parameter has
no valid layout, initial contents are longer than their variable. `Breaks` says what is wrong at a
place without looking at any other; places have an order, in which a declaration comes before what
is inside it. The defect that a module is refused for is the one at the first of all broken places.

* `walk?_eq_some` — a walk over named declarations stops at the first that is at fault.
* `firstDefect?_eq_some_iff` — the defect found is the first violation.
* `KernelModule.parse_exact` — what is read from a document, and what it is refused for.
-/

import ComputeHost.Proofs.Module.RoundTrip
import Mathlib.Data.List.Lex
import Mathlib.Data.List.Nodup

namespace ComputeHost

namespace Document

variable {document : Document} {defect : ModuleDefect}

/-! ### Places -/

/-- A place of a document that a rule for modules is about. -/
inductive Place
  /-- The name of a kernel. -/
  | kernel (index : Nat)
  /-- A parameter of a kernel. -/
  | parameter (owner index : Nat)
  /-- The name of a global variable. -/
  | global (index : Nat)
  /-- The initial contents of a global variable. -/
  | initial (owner : Nat)

namespace Place

/-- The steps that lead to the place: kernels or global variables, which of them, and what in it. -/
def path : Place → List Nat
  | .kernel index => [0, index]
  | .parameter owner index => [0, owner, index]
  | .global index => [1, index]
  | .initial owner => [1, owner, 0]

/-- The order of a walk: kernels come before global variables, and a declaration comes before what
is inside it, and that before the next declaration. -/
def Precedes (one other : Place) : Prop := one.path < other.path

theorem path_injective : Function.Injective path := by
  intro one other same
  cases one <;> cases other <;> simp_all [path]

/-- Of two places, one comes first. -/
theorem precedes_trichotomy (one other : Place) :
    one.Precedes other ∨ one = other ∨ other.Precedes one :=
  (lt_trichotomy one.path other.path).imp_right (Or.imp_left fun same => path_injective same)

theorem precedes_kernel_iff {place : Place} {index : Nat} :
    place.Precedes (.kernel index) ↔
      (∃ earlier < index, place = .kernel earlier) ∨
        ∃ earlier < index, ∃ slot, place = .parameter earlier slot := by
  cases place <;> simp [Precedes, path, List.cons_lt_cons_iff]

theorem precedes_parameter_iff {place : Place} {owner index : Nat} :
    place.Precedes (.parameter owner index) ↔
      (∃ earlier ≤ owner, place = .kernel earlier) ∨
        (∃ earlier < owner, ∃ slot, place = .parameter earlier slot) ∨
          ∃ slot < index, place = .parameter owner slot := by
  cases place <;> simp [Precedes, path, List.cons_lt_cons_iff] <;> grind

theorem precedes_global_iff {place : Place} {index : Nat} :
    place.Precedes (.global index) ↔
      (∃ earlier, place = .kernel earlier) ∨ (∃ earlier slot, place = .parameter earlier slot) ∨
        (∃ earlier < index, place = .global earlier) ∨
          ∃ earlier < index, place = .initial earlier := by
  cases place <;> simp [Precedes, path, List.cons_lt_cons_iff]

theorem precedes_initial_iff {place : Place} {owner : Nat} :
    place.Precedes (.initial owner) ↔
      (∃ earlier, place = .kernel earlier) ∨ (∃ earlier slot, place = .parameter earlier slot) ∨
        (∃ earlier ≤ owner, place = .global earlier) ∨
          ∃ earlier < owner, place = .initial earlier := by
  cases place <;> simp [Precedes, path, List.cons_lt_cons_iff]
  grind

end Place

/-- What is wrong at a place. -/
inductive Breaks (document : Document) : Place → ModuleDefect → Prop
  /-- An earlier kernel has the name. -/
  | duplicateKernel {index earlier : Nat} {kernel other : KernelSignature}
      (here : document.kernels[index]? = some kernel) (before : earlier < index)
      (there : document.kernels[earlier]? = some other) (same : other.name = kernel.name) :
      Breaks document (.kernel index) (.duplicateKernel kernel.name)
  /-- The parameter takes no bytes, or is not aligned to a power of two. -/
  | invalidLayout {place index : Nat} {kernel : KernelSignature} {parameter : Parameter}
      (here : document.kernels[place]? = some kernel)
      (declared : kernel.parameters[index]? = some parameter)
      (invalid : ¬ (parameter.size ≠ 0 ∧ ∃ exponent, parameter.alignment = 2 ^ exponent)) :
      Breaks document (.parameter place index)
        (.invalidLayout kernel.name index parameter.size parameter.alignment)
  /-- An earlier global variable has the name. -/
  | duplicateGlobal {index earlier : Nat} {global other : GlobalVariable}
      (here : document.globals[index]? = some global) (before : earlier < index)
      (there : document.globals[earlier]? = some other) (same : other.name = global.name) :
      Breaks document (.global index) (.duplicateGlobal global.name)
  /-- The initial contents are longer than the variable. -/
  | oversizedInitial {index : Nat} {global : GlobalVariable} {bytes : Bytes}
      (here : document.globals[index]? = some global) (given : global.initial = some bytes)
      (longer : global.size < bytes.length) :
      Breaks document (.initial index) (.oversizedInitial global.name global.size)

/-- The first violation: what is wrong at a place before which nothing is wrong. -/
structure FirstViolation (document : Document) (place : Place) (defect : ModuleDefect) : Prop where
  broken : document.Breaks place defect
  first : ∀ earlier : Place, earlier.Precedes place → ∀ other, ¬ document.Breaks earlier other

/-- One thing at most is wrong at a place. -/
theorem Breaks.unique {place : Place} {other : ModuleDefect} (one : document.Breaks place defect)
    (two : document.Breaks place other) : defect = other := by
  cases one with
  | duplicateKernel here =>
    cases two with
    | duplicateKernel here' => rw [Option.some.inj (here.symm.trans here')]
  | invalidLayout here declared =>
    cases two with
    | invalidLayout here' declared' =>
      obtain rfl := Option.some.inj (here.symm.trans here')
      rw [Option.some.inj (declared.symm.trans declared')]
  | duplicateGlobal here =>
    cases two with
    | duplicateGlobal here' => rw [Option.some.inj (here.symm.trans here')]
  | oversizedInitial here =>
    cases two with
    | oversizedInitial here' => rw [Option.some.inj (here.symm.trans here')]

/-- There is one first violation at most. -/
theorem FirstViolation.unique {place place' : Place} {other : ModuleDefect}
    (one : document.FirstViolation place defect) (two : document.FirstViolation place' other) :
    defect = other := by
  rcases place.precedes_trichotomy place' with before | rfl | after
  · exact absurd one.broken (two.first place before defect)
  · exact one.broken.unique two.broken
  · exact absurd two.broken (one.first place' after other)

/-- Where names differ, no declaration has the name of an earlier one. -/
theorem name_ne_of_nodup {α : Type} {name : α → String} {items : List α} {index earlier : Nat}
    {one other : α} (nodup : (items.map name).Nodup) (here : items[index]? = some one)
    (before : earlier < index) (there : items[earlier]? = some other) : name other ≠ name one := by
  intro same
  have first : (items.map name)[earlier]? = some (name other) := by
    rw [List.getElem?_map, there, Option.map_some]
  have second : (items.map name)[index]? = some (name one) := by
    rw [List.getElem?_map, here, Option.map_some]
  obtain ⟨bound, at_earlier⟩ := List.getElem?_eq_some_iff.mp first
  obtain ⟨bound', at_index⟩ := List.getElem?_eq_some_iff.mp second
  have equal : earlier = index :=
    (List.Nodup.getElem_inj_iff nodup).mp (at_earlier.trans (same.trans at_index.symm))
  omega

/-- A lawful document breaks no rule. -/
theorem Lawful.not_breaks (lawful : document.Lawful) (place : Place) :
    ¬ document.Breaks place defect := by
  intro breaks
  cases breaks with
  | duplicateKernel here before there same =>
    exact name_ne_of_nodup lawful.kernels here before there same
  | invalidLayout here declared invalid =>
    have among := List.mem_of_getElem? here
    exact invalid (lawful.parameters _ among _ (List.mem_of_getElem? declared))
  | duplicateGlobal here before there same =>
    exact name_ne_of_nodup lawful.globals here before there same
  | oversizedInitial here given longer =>
    exact absurd (lawful.initials _ (List.mem_of_getElem? here) _ given) (by omega)

/-! ### Walks over named declarations -/

section

variable {α : Type} {name : α → String} {duplicate : String → ModuleDefect}
  {flaw? : α → Option ModuleDefect} {seen : List String} {items : List α}

/-- The first defect of declarations that follow others with the names `seen`: a name that came
before, or what is wrong with the declaration itself. -/
def walk? (name : α → String) (duplicate : String → ModuleDefect)
    (flaw? : α → Option ModuleDefect) (seen : List String) : List α → Option ModuleDefect
  | [] => none
  | item :: rest =>
    if name item ∈ seen then some (duplicate (name item))
    else (flaw? item).or (walk? name duplicate flaw? (name item :: seen) rest)

/-- The name came before. -/
def Repeats (name : α → String) (seen : List String) (items : List α) (index : Nat) (item : α) :
    Prop :=
  name item ∈ seen ∨
    ∃ earlier < index, ∃ other, items[earlier]? = some other ∧ name other = name item

theorem repeats_zero {item : α} : Repeats name seen items 0 item ↔ name item ∈ seen :=
  or_iff_left fun ⟨_, before, _⟩ => Nat.not_lt_zero _ before

/-- Behind the first declaration, its name is one of those seen. -/
theorem repeats_succ {first item : α} {index : Nat} :
    Repeats name seen (first :: items) (index + 1) item ↔
      Repeats name (name first :: seen) items index item := by
  unfold Repeats
  rw [List.mem_cons]
  constructor
  · rintro (known | ⟨_ | earlier, before, other, there, same⟩)
    · exact .inl (.inr known)
    · cases there
      exact .inl (.inl same.symm)
    · exact .inr ⟨earlier, by omega, other, there, same⟩
  · rintro ((same | known) | ⟨earlier, before, other, there, same⟩)
    · exact .inr ⟨0, by omega, first, rfl, same.symm⟩
    · exact .inl known
    · exact .inr ⟨earlier + 1, by omega, other, there, same⟩

/-- **A walk stops at the first declaration that is at fault**: its name came before, or else
something is wrong with the declaration itself. -/
theorem walk?_eq_some (found : walk? name duplicate flaw? seen items = some defect) :
    ∃ index item, items[index]? = some item ∧
      (Repeats name seen items index item ∧ defect = duplicate (name item) ∨
        ¬ Repeats name seen items index item ∧ flaw? item = some defect) ∧
      ∀ earlier < index, ∀ other, items[earlier]? = some other →
        ¬ Repeats name seen items earlier other ∧ flaw? other = none := by
  induction items generalizing seen with
  | nil => cases found
  | cons first rest ih =>
    rw [walk?] at found
    split at found
    · rename_i known
      cases found
      exact ⟨0, first, rfl, .inl ⟨repeats_zero.mpr known, rfl⟩, fun _ before =>
        absurd before (Nat.not_lt_zero _)⟩
    · rename_i new
      have fresh : ¬ Repeats name seen (first :: rest) 0 first := fun again =>
        new (repeats_zero.mp again)
      cases flaw : flaw? first with
      | some own =>
        rw [flaw, Option.some_or] at found
        cases found
        exact ⟨0, first, rfl, .inr ⟨fresh, flaw⟩, fun _ before =>
          absurd before (Nat.not_lt_zero _)⟩
      | none =>
        rw [flaw, Option.none_or] at found
        obtain ⟨index, item, here, fault, sound⟩ := ih found
        refine ⟨index + 1, item, here, ?_, fun earlier before other there => ?_⟩
        · rwa [repeats_succ]
        · cases earlier with
          | zero =>
            cases there
            exact ⟨fresh, flaw⟩
          | succ earlier =>
            rw [repeats_succ]
            exact sound earlier (by omega) other there

end

/-- What is wrong with the parameters of a kernel. -/
def kernelFlaw? (kernel : KernelSignature) : Option ModuleDefect :=
  parameterDefect? kernel.name 0 kernel.parameters

/-- What is wrong with the initial contents of a global variable. -/
def globalFlaw? (global : GlobalVariable) : Option ModuleDefect :=
  if fitsInitial global then none else some (.oversizedInitial global.name global.size)

theorem kernelDefect?_eq_walk? (seen : List String) (kernels : List KernelSignature) :
    kernelDefect? seen kernels =
      walk? KernelSignature.name .duplicateKernel kernelFlaw? seen kernels := by
  induction kernels generalizing seen with
  | nil => rfl
  | cons kernel rest ih =>
    rw [kernelDefect?, walk?, ih]
    rfl

theorem globalDefect?_eq_walk? (seen : List String) (globals : List GlobalVariable) :
    globalDefect? seen globals =
      walk? GlobalVariable.name .duplicateGlobal globalFlaw? seen globals := by
  induction globals generalizing seen with
  | nil => rfl
  | cons global rest ih =>
    rw [globalDefect?, walk?, ih, globalFlaw?]
    split
    · rfl
    · split <;> rfl

/-- The first parameter that cannot be placed. -/
theorem parameterDefect?_eq_some {kernel : String} {start : Nat} {parameters : List Parameter}
    (found : parameterDefect? kernel start parameters = some defect) :
    ∃ index parameter, parameters[index]? = some parameter ∧ isPlaceable parameter = false ∧
      defect = .invalidLayout kernel (start + index) parameter.size parameter.alignment ∧
      ∀ earlier < index, ∀ other, parameters[earlier]? = some other → isPlaceable other = true := by
  induction parameters generalizing start with
  | nil => cases found
  | cons first rest ih =>
    rw [parameterDefect?] at found
    split at found
    · rename_i placeable
      obtain ⟨index, parameter, here, fault, rfl, sound⟩ := ih found
      refine ⟨index + 1, parameter, here, fault, ?_, fun earlier before other there => ?_⟩
      · rw [Nat.add_assoc, Nat.add_comm 1]
      · cases earlier with
        | zero =>
          cases there
          exact placeable
        | succ earlier => exact sound earlier (by omega) other there
    · rename_i unplaceable
      cases found
      exact ⟨0, first, rfl, Bool.of_not_eq_true unplaceable, rfl, fun _ before =>
        absurd before (Nat.not_lt_zero _)⟩

/-! ### What a walk has passed -/

/-- A kernel whose name did not come before breaks no rule by its name. -/
theorem not_breaks_kernel {index : Nat} {kernel : KernelSignature}
    (here : document.kernels[index]? = some kernel)
    (new : ¬ Repeats KernelSignature.name [] document.kernels index kernel) :
    ¬ document.Breaks (.kernel index) defect := by
  intro breaks
  cases breaks with
  | duplicateKernel here' before there same =>
    cases here.symm.trans here'
    exact new (.inr ⟨_, before, _, there, same⟩)

/-- A parameter that can be placed breaks no rule. -/
theorem not_breaks_parameter {owner index : Nat} {kernel : KernelSignature}
    (here : document.kernels[owner]? = some kernel)
    (placeable : ∀ parameter, kernel.parameters[index]? = some parameter →
      isPlaceable parameter = true) :
    ¬ document.Breaks (.parameter owner index) defect := by
  intro breaks
  cases breaks with
  | invalidLayout here' declared invalid =>
    cases here.symm.trans here'
    exact invalid (isPlaceable_iff.mp (placeable _ declared))

/-- A global variable whose name did not come before breaks no rule by its name. -/
theorem not_breaks_global {index : Nat} {global : GlobalVariable}
    (here : document.globals[index]? = some global)
    (new : ¬ Repeats GlobalVariable.name [] document.globals index global) :
    ¬ document.Breaks (.global index) defect := by
  intro breaks
  cases breaks with
  | duplicateGlobal here' before there same =>
    cases here.symm.trans here'
    exact new (.inr ⟨_, before, _, there, same⟩)

theorem globalFlaw?_eq_some_iff {global : GlobalVariable} :
    globalFlaw? global = some defect ↔
      (∃ bytes, global.initial = some bytes ∧ global.size < bytes.length) ∧
        defect = .oversizedInitial global.name global.size := by
  unfold globalFlaw? fitsInitial
  cases global.initial <;> simp [eq_comm]

/-- Initial contents that fit break no rule. -/
theorem not_breaks_initial {index : Nat} {global : GlobalVariable}
    (here : document.globals[index]? = some global) (sound : globalFlaw? global = none) :
    ¬ document.Breaks (.initial index) defect := by
  intro breaks
  cases breaks with
  | oversizedInitial here' given longer =>
    cases here.symm.trans here'
    have flaw := globalFlaw?_eq_some_iff.mpr ⟨⟨_, given, longer⟩, rfl⟩
    exact Option.some_ne_none _ (flaw.symm.trans sound)

/-! ### The first violation -/

/-- **The defect of the kernels is the first violation.** -/
theorem exists_firstViolation_of_kernelDefect?
    (found : kernelDefect? [] document.kernels = some defect) :
    ∃ place, document.FirstViolation place defect := by
  rw [kernelDefect?_eq_walk?] at found
  obtain ⟨index, kernel, here, fault, sound⟩ := walk?_eq_some found
  -- the kernels before the faulty one were passed with all their parameters
  have passed : ∀ earlier < index, ∀ other, ¬ document.Breaks (.kernel earlier) other ∧
      ∀ slot, ¬ document.Breaks (.parameter earlier slot) other := by
    intro earlier before other
    have bound := before.trans (List.getElem?_eq_some_iff.mp here).1
    have there := List.getElem?_eq_getElem bound
    obtain ⟨new, flawless⟩ := sound earlier before _ there
    refine ⟨not_breaks_kernel there new, fun slot => not_breaks_parameter there ?_⟩
    exact fun parameter declared =>
      parameterDefect?_eq_none_iff.mp flawless parameter (List.mem_of_getElem? declared)
  rcases fault with ⟨known | ⟨earlier, before, other, there, same⟩, rfl⟩ | ⟨new, flaw⟩
  · cases known
  · refine ⟨.kernel index, .duplicateKernel here before there same, ?_⟩
    intro place precedes
    rcases Place.precedes_kernel_iff.mp precedes with ⟨_, lower, rfl⟩ | ⟨_, lower, slot, rfl⟩
    · exact fun other => (passed _ lower other).1
    · exact fun other => (passed _ lower other).2 slot
  · obtain ⟨slot, parameter, declared, unplaceable, rfl, placeable⟩ :=
      parameterDefect?_eq_some flaw
    have invalid : ¬ (parameter.size ≠ 0 ∧ ∃ exponent, parameter.alignment = 2 ^ exponent) := by
      rw [← isPlaceable_iff, unplaceable]
      exact Bool.false_ne_true
    rw [Nat.zero_add]
    refine ⟨.parameter index slot, .invalidLayout here declared invalid, ?_⟩
    intro place precedes
    rcases Place.precedes_parameter_iff.mp precedes with
      ⟨owner, lower, rfl⟩ | ⟨_, lower, other, rfl⟩ | ⟨other, lower, rfl⟩
    · rcases Nat.lt_or_eq_of_le lower with before | rfl
      · exact fun other => (passed _ before other).1
      · exact fun _ => not_breaks_kernel here new
    · exact fun defect => (passed _ lower defect).2 other
    · exact fun _ => not_breaks_parameter here (placeable _ lower)

/-- **Without a defect of the kernels, that of the global variables is the first violation.** -/
theorem exists_firstViolation_of_globalDefect? (clean : kernelDefect? [] document.kernels = none)
    (found : globalDefect? [] document.globals = some defect) :
    ∃ place, document.FirstViolation place defect := by
  obtain ⟨⟨names, _⟩, placeable⟩ := kernelDefect?_eq_none_iff.mp clean
  have kernels : ∀ index other, ¬ document.Breaks (.kernel index) other := by
    intro index other breaks
    cases breaks with
    | duplicateKernel here before there same => exact name_ne_of_nodup names here before there same
  have parameters : ∀ owner slot other, ¬ document.Breaks (.parameter owner slot) other := by
    intro owner slot other breaks
    cases breaks with
    | invalidLayout here declared invalid =>
      exact invalid (isPlaceable_iff.mp
        (placeable _ (List.mem_of_getElem? here) _ (List.mem_of_getElem? declared)))
  rw [globalDefect?_eq_walk?] at found
  obtain ⟨index, global, here, fault, sound⟩ := walk?_eq_some found
  have passed : ∀ earlier < index, ∀ other, ¬ document.Breaks (.global earlier) other ∧
      ¬ document.Breaks (.initial earlier) other := by
    intro earlier before other
    have bound := before.trans (List.getElem?_eq_some_iff.mp here).1
    have there := List.getElem?_eq_getElem bound
    obtain ⟨new, flawless⟩ := sound earlier before _ there
    exact ⟨not_breaks_global there new, not_breaks_initial there flawless⟩
  rcases fault with ⟨known | ⟨earlier, before, other, there, same⟩, rfl⟩ | ⟨new, flaw⟩
  · cases known
  · refine ⟨.global index, .duplicateGlobal here before there same, ?_⟩
    intro place precedes
    rcases Place.precedes_global_iff.mp precedes with
      ⟨_, rfl⟩ | ⟨_, _, rfl⟩ | ⟨_, lower, rfl⟩ | ⟨_, lower, rfl⟩
    · exact kernels _
    · exact parameters _ _
    · exact fun other => (passed _ lower other).1
    · exact fun other => (passed _ lower other).2
  · obtain ⟨⟨bytes, given, longer⟩, rfl⟩ := globalFlaw?_eq_some_iff.mp flaw
    refine ⟨.initial index, .oversizedInitial here given longer, ?_⟩
    intro place precedes
    rcases Place.precedes_initial_iff.mp precedes with
      ⟨_, rfl⟩ | ⟨_, _, rfl⟩ | ⟨_, lower, rfl⟩ | ⟨_, lower, rfl⟩
    · exact kernels _
    · exact parameters _ _
    · rcases Nat.lt_or_eq_of_le lower with before | rfl
      · exact fun other => (passed _ before other).1
      · exact fun _ => not_breaks_global here new
    · exact fun other => (passed _ lower other).2

/-- **The defect of a document is its first violation**, and there is one unless the document is
lawful. -/
theorem firstDefect?_eq_some_iff :
    document.firstDefect? = some defect ↔ ∃ place, document.FirstViolation place defect := by
  have exists_of_found : ∀ {found}, document.firstDefect? = some found →
      ∃ place, document.FirstViolation place found := by
    intro found isFound
    unfold firstDefect? at isFound
    cases clean : kernelDefect? [] document.kernels with
    | some own =>
      rw [clean, Option.some_or] at isFound
      exact exists_firstViolation_of_kernelDefect? (clean.trans isFound)
    | none =>
      rw [clean, Option.none_or] at isFound
      exact exists_firstViolation_of_globalDefect? clean isFound
  refine ⟨exists_of_found, fun ⟨place, violation⟩ => ?_⟩
  cases isFound : document.firstDefect? with
  | none => exact absurd violation.broken ((firstDefect?_eq_none_iff.mp isFound).not_breaks place)
  | some found =>
    obtain ⟨_, first⟩ := exists_of_found isFound
    rw [first.unique violation]

/-- The text of a document reads as the document. -/
theorem ofText?_text (words : document.InWords) : ofText? document.text = some document := by
  unfold ofText?
  rw [text_eq, Json.ofText?_compact document.plain_toJson, Option.bind_some, ofJson?_toJson words]

end Document

/-! ### Reading a module -/

/-- Where names differ, finding by name gives the only entry of the name. -/
theorem filter_eq_toList_find? {α : Type} {name : α → String} {items : List α}
    (nodup : (items.map name).Nodup) (wanted : String) :
    items.filter (fun item => name item == wanted) =
      (items.find? fun item => name item == wanted).toList := by
  induction items with
  | nil => rfl
  | cons item rest ih =>
    rw [List.map_cons, List.nodup_cons] at nodup
    rw [List.filter_cons, List.find?_cons]
    cases same : name item == wanted with
    | false => exact ih nodup.2
    | true =>
      have none_left : rest.filter (fun item => name item == wanted) = [] := by
        rw [List.filter_eq_nil_iff]
        intro other member again
        refine nodup.1 (List.mem_map.mpr ⟨other, member, ?_⟩)
        rw [eq_of_beq again, eq_of_beq same]
      rw [if_pos rfl, none_left]
      rfl

/-- **Reading a module is exact.** A text that reads as a document gives a module exactly if the
document obeys the rules for modules. The module has the document's kernels and global variables in
their order, and a name finds the only one that has it. Otherwise the text is refused for the
first violation. -/
theorem KernelModule.parse_exact {source : String} {document : Document}
    (read : Document.ofText? source = some document) (name : String) :
    ((∃ module, KernelModule.parse name source = .ok module) ↔ document.Lawful) ∧
      (∀ module, KernelModule.parse name source = .ok module →
        module.kernels = document.kernels ∧ module.globals = document.globals ∧
        (∀ wanted, document.kernels.filter (fun kernel => kernel.name == wanted) =
          (module.kernel? wanted).toList) ∧
        ∀ wanted, document.globals.filter (fun global => global.name == wanted) =
          (module.global? wanted).toList) ∧
      ∀ cause, KernelModule.parse name source = .error cause ↔
        ∃ place defect, document.FirstViolation place defect ∧
          cause = .parse name defect.message := by
  cases found : document.firstDefect? with
  | none =>
    have lawful := Document.firstDefect?_eq_none_iff.mp found
    have parsed : KernelModule.parse name source =
        .ok ⟨name, document.kernels, document.globals, source⟩ :=
      parse_eq_ok_iff.mpr ⟨document, read, found, rfl⟩
    rw [parsed]
    refine ⟨iff_of_true ⟨_, rfl⟩ lawful, ?_, fun cause => iff_of_false ?_ ?_⟩
    · rintro _ ⟨⟩
      exact ⟨rfl, rfl, filter_eq_toList_find? lawful.kernels, filter_eq_toList_find? lawful.globals⟩
    · rintro ⟨⟩
    · rintro ⟨place, defect, violation, _⟩
      exact lawful.not_breaks place violation.broken
  | some defect =>
    obtain ⟨place, violation⟩ := Document.firstDefect?_eq_some_iff.mp found
    have parsed : KernelModule.parse name source = .error (.parse name defect.message) := by
      simp only [parse, ofText, read, ofDocument, found]
    rw [parsed]
    refine ⟨iff_of_false ?_ ?_, ?_, fun cause => ⟨?_, ?_⟩⟩
    · rintro ⟨_, ⟨⟩⟩
    · exact fun lawful => lawful.not_breaks place violation.broken
    · rintro _ ⟨⟩
    · rintro ⟨⟩
      exact ⟨place, defect, violation, rfl⟩
    · rintro ⟨_, other, another, rfl⟩
      rw [violation.unique another]

/-- A document with three violations: a parameter that is not aligned to a power of two, a kernel
name used twice, and initial contents that are too long. -/
def Document.faulty : Document where
  kernels := [⟨"a", [⟨"x", .devicePtr⟩, ⟨"y", .bytes 6 3⟩]⟩, ⟨"a", []⟩]
  globals := [⟨"g", 1, some [1, 2]⟩]

theorem KernelModule.parse_exact_faulty :
    Document.ofText? Document.faulty.text = some Document.faulty ∧
      Document.faulty.Breaks (.kernel 1) (.duplicateKernel "a") ∧
      Document.faulty.Breaks (.initial 0) (.oversizedInitial "g" 1) ∧
      KernelModule.parse "m" Document.faulty.text = .error
        (.parse "m" "kernel 'a' parameter 1: size 6 / alignment 3 is not a valid layout") := by
  have words : Document.faulty.InWords := by
    refine ⟨?_, by decide⟩
    simp only [Parameter.InWords]
    decide +kernel
  have read := Document.ofText?_text words
  have broken : Document.faulty.Breaks (.parameter 0 1) (.invalidLayout "a" 1 6 3) := by
    have here : Document.faulty.kernels[0]? =
        some ⟨"a", [⟨"x", .devicePtr⟩, ⟨"y", .bytes 6 3⟩]⟩ := rfl
    have declared : [(⟨"x", .devicePtr⟩ : Parameter), ⟨"y", .bytes 6 3⟩][1]? =
        some ⟨"y", .bytes 6 3⟩ := rfl
    refine .invalidLayout here declared ?_
    rw [← Document.isPlaceable_iff]
    decide
  have first : Document.faulty.FirstViolation (.parameter 0 1) (.invalidLayout "a" 1 6 3) := by
    refine ⟨broken, fun place precedes other breaks => ?_⟩
    rcases Document.Place.precedes_parameter_iff.mp precedes with
      ⟨_, lower, rfl⟩ | ⟨_, lower, _⟩ | ⟨slot, lower, rfl⟩
    · cases breaks with
      | duplicateKernel _ before => exact Nat.not_lt_zero _ (before.trans_le lower)
    · exact Nat.not_lt_zero _ lower
    · obtain rfl : slot = 0 := by omega
      cases breaks with
      | invalidLayout here declared invalid =>
        cases here
        cases declared
        exact invalid (Document.isPlaceable_iff.mp (by decide))
  have again : Document.faulty.kernels[1]? = some ⟨"a", []⟩ := rfl
  have initial : Document.faulty.globals[0]? = some ⟨"g", 1, some [1, 2]⟩ := rfl
  refine ⟨read, .duplicateKernel again Nat.zero_lt_one rfl rfl,
    .oversizedInitial initial rfl (Nat.lt_succ_self 1), ?_⟩
  exact ((KernelModule.parse_exact read "m").2.2 _).mpr ⟨_, _, first, by decide +kernel⟩

end ComputeHost
