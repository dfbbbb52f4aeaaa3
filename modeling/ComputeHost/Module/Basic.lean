/-
**Kernel modules.**

A module is a text that was read and checked: kernel names differ, every parameter has a size and
a power of two as its alignment, global names differ, and no initial contents are longer than
their variable. `firstDefect?` walks the document in this order and stops at the first violation.

* `KernelModule.parse_source`, `KernelModule.parse_name` — a module keeps its text and its name.
* `KernelModule.parse_globals` — its global variables are told apart by name, and their contents
  fit.
* `Document.kernelDefect?_eq_none_iff`, `Document.globalDefect?_eq_none_iff` — what has no defect.
-/

import ComputeHost.Device.Error
import ComputeHost.Module.Document

namespace ComputeHost

/-- What is wrong with a module text. -/
inductive ModuleDefect
  /-- The text is not a module document. -/
  | unreadable
  | duplicateKernel (name : String)
  | invalidLayout (kernel : String) (index size alignment : Nat)
  | duplicateGlobal (name : String)
  | oversizedInitial (name : String) (size : Nat)
  deriving DecidableEq

/-- The defect in words. -/
def ModuleDefect.message : ModuleDefect → String
  | unreadable => "<json>"
  | duplicateKernel name => "duplicate kernel '" ++ name ++ "'"
  | invalidLayout kernel index size alignment =>
    "kernel '" ++ kernel ++ "' parameter " ++ toString index ++ ": size " ++ toString size ++
      " / alignment " ++ toString alignment ++ " is not a valid layout"
  | duplicateGlobal name => "duplicate global '" ++ name ++ "'"
  | oversizedInitial name size =>
    "global '" ++ name ++ "' initializer exceeds its size " ++ toString size

namespace Document

/-- Whether the number is a power of two. -/
def isPowerOfTwo (value : Nat) : Bool := 1 <<< value.log2 == value

/-- Whether an argument of the type can be placed. -/
def isPlaceable (parameter : Parameter) : Bool :=
  parameter.size ≠ 0 && isPowerOfTwo parameter.alignment

/-- The first parameter that cannot be placed, counting from `index`. -/
def parameterDefect? (kernel : String) : (index : Nat) → List Parameter → Option ModuleDefect
  | _, [] => none
  | index, parameter :: rest =>
    if isPlaceable parameter then parameterDefect? kernel (index + 1) rest
    else some (.invalidLayout kernel index parameter.size parameter.alignment)

/-- The first defect of kernels that follow kernels with the names `seen`. -/
def kernelDefect? (seen : List String) : List KernelSignature → Option ModuleDefect
  | [] => none
  | kernel :: rest =>
    if kernel.name ∈ seen then some (.duplicateKernel kernel.name)
    else
      (parameterDefect? kernel.name 0 kernel.parameters).or
        (kernelDefect? (kernel.name :: seen) rest)

/-- Whether the initial contents, if any, fit the variable. -/
def fitsInitial (global : GlobalVariable) : Bool :=
  global.initial.all fun bytes => bytes.length ≤ global.size

/-- The first defect of global variables that follow variables with the names `seen`. -/
def globalDefect? (seen : List String) : List GlobalVariable → Option ModuleDefect
  | [] => none
  | global :: rest =>
    if global.name ∈ seen then some (.duplicateGlobal global.name)
    else if fitsInitial global then globalDefect? (global.name :: seen) rest
    else some (.oversizedInitial global.name global.size)

/-- The first defect of the document: kernels first, then global variables. -/
def firstDefect? (document : Document) : Option ModuleDefect :=
  (kernelDefect? [] document.kernels).or (globalDefect? [] document.globals)

/-- The names differ from each other and from those seen. -/
def AreFresh (seen names : List String) : Prop :=
  names.Nodup ∧ ∀ name ∈ names, name ∉ seen

theorem areFresh_cons {seen rest : List String} {name : String} :
    AreFresh seen (name :: rest) ↔ name ∉ seen ∧ AreFresh (name :: seen) rest := by
  unfold AreFresh
  rw [List.nodup_cons, List.forall_mem_cons]
  simp only [List.mem_cons, not_or]
  constructor
  · rintro ⟨⟨once, distinct⟩, new, fresh⟩
    exact ⟨new, distinct, fun other member =>
      ⟨fun same => once (same ▸ member), fresh other member⟩⟩
  · rintro ⟨new, distinct, fresh⟩
    exact ⟨⟨fun member => (fresh name member).1 rfl, distinct⟩, new, fun other member =>
      (fresh other member).2⟩

theorem parameterDefect?_eq_none_iff {kernel : String} {index : Nat} {parameters : List Parameter} :
    parameterDefect? kernel index parameters = none ↔
      ∀ parameter ∈ parameters, isPlaceable parameter = true := by
  induction parameters generalizing index with
  | nil => exact ⟨fun _ => nofun, fun _ => rfl⟩
  | cons parameter rest ih =>
    rw [parameterDefect?, List.forall_mem_cons]
    split
    · rename_i placeable
      rw [ih, and_iff_right placeable]
    · rename_i unplaceable
      exact ⟨nofun, fun both => absurd both.1 unplaceable⟩

/-- Kernels have no defect if their names are fresh and all their parameters can be placed. -/
theorem kernelDefect?_eq_none_iff {seen : List String} {kernels : List KernelSignature} :
    kernelDefect? seen kernels = none ↔
      AreFresh seen (kernels.map KernelSignature.name) ∧
        ∀ kernel ∈ kernels, ∀ parameter ∈ kernel.parameters, isPlaceable parameter = true := by
  induction kernels generalizing seen with
  | nil => exact ⟨fun _ => ⟨⟨List.nodup_nil, nofun⟩, nofun⟩, fun _ => rfl⟩
  | cons kernel rest ih =>
    rw [kernelDefect?, List.map_cons, areFresh_cons, List.forall_mem_cons]
    split
    · rename_i again
      exact ⟨nofun, fun both => absurd again both.1.1⟩
    · rename_i new
      rw [Option.or_eq_none_iff, parameterDefect?_eq_none_iff, ih, and_iff_right new]
      exact and_left_comm

/-- Global variables have no defect if their names are fresh and their initial contents have
room. -/
theorem globalDefect?_eq_none_iff {seen : List String} {globals : List GlobalVariable} :
    globalDefect? seen globals = none ↔
      AreFresh seen (globals.map GlobalVariable.name) ∧
        ∀ global ∈ globals, fitsInitial global = true := by
  induction globals generalizing seen with
  | nil => exact ⟨fun _ => ⟨⟨List.nodup_nil, nofun⟩, nofun⟩, fun _ => rfl⟩
  | cons global rest ih =>
    rw [globalDefect?, List.map_cons, areFresh_cons, List.forall_mem_cons]
    split
    · rename_i again
      exact ⟨nofun, fun both => absurd again both.1.1⟩
    · rename_i new
      split
      · rename_i fits
        rw [ih, and_iff_right new, and_iff_right fits]
      · rename_i oversized
        exact ⟨nofun, fun both => absurd both.2.1 oversized⟩

end Document

/-- A module that was read and checked. -/
structure KernelModule where
  name : String
  kernels : List KernelSignature
  globals : List GlobalVariable
  /-- The text it was read from. -/
  source : String
  deriving DecidableEq

namespace KernelModule

/-- The module of a document, or its first defect. -/
def ofDocument (name source : String) (document : Document) : Except ModuleDefect KernelModule :=
  match document.firstDefect? with
  | some defect => .error defect
  | none => .ok ⟨name, document.kernels, document.globals, source⟩

/-- The module of a text, or what is wrong with it. -/
def ofText (name source : String) : Except ModuleDefect KernelModule :=
  match Document.ofText? source with
  | none => .error .unreadable
  | some document => ofDocument name source document

/-- Reads a text as the module `name`. -/
def parse (name source : String) : Except DeviceError KernelModule :=
  match ofText name source with
  | .error defect => .error (.parse name defect.message)
  | .ok module => .ok module

/-- The kernel of a name. -/
def kernel? (module : KernelModule) (name : String) : Option KernelSignature :=
  module.kernels.find? fun kernel => kernel.name == name

/-- The global variable of a name. -/
def global? (module : KernelModule) (name : String) : Option GlobalVariable :=
  module.globals.find? fun global => global.name == name

theorem parse_eq_ok_iff {name source : String} {module : KernelModule} :
    parse name source = .ok module ↔
      ∃ document, Document.ofText? source = some document ∧ document.firstDefect? = none ∧
        module = ⟨name, document.kernels, document.globals, source⟩ := by
  rw [parse, ofText]
  cases Document.ofText? source with
  | none => simp
  | some document =>
    simp only [ofDocument]
    cases defect : document.firstDefect? <;> simp [defect, eq_comm]

theorem parse_name {name source : String} {module : KernelModule}
    (read : parse name source = .ok module) : module.name = name := by
  obtain ⟨_, _, _, same⟩ := parse_eq_ok_iff.mp read
  rw [same]

theorem parse_source {name source : String} {module : KernelModule}
    (read : parse name source = .ok module) : module.source = source := by
  obtain ⟨_, _, _, same⟩ := parse_eq_ok_iff.mp read
  rw [same]

theorem parse_globals {name source : String} {module : KernelModule}
    (read : parse name source = .ok module) :
    (module.globals.map GlobalVariable.name).Nodup ∧
      ∀ global ∈ module.globals, Document.fitsInitial global = true := by
  obtain ⟨document, _, faultless, rfl⟩ := parse_eq_ok_iff.mp read
  have passes := (Option.or_eq_none_iff.mp faultless).2
  obtain ⟨fresh, roomy⟩ := Document.globalDefect?_eq_none_iff.mp passes
  exact ⟨fresh.1, roomy⟩

end KernelModule

end ComputeHost
