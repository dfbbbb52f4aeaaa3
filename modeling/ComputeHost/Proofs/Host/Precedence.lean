/-
**Which error a refused launch has.**

A launch passes guards in a fixed order, and some of them at one place after the other: dimension by
dimension, or argument by argument. What violates a guard is said without saying how it is found out
(`Violates`). A part of the checks settles some guards if it fails with the error of their first
violation, and passes if there is none (`Settles`).

* `Settles.bind`, `Settles.single` — checks in sequence settle their guards in sequence.
* `settles_checkLaunch` — the checks up to the events.
* `settles_launchRequest` — the checks after the geometry is noted.
* `Session.first_violation` — **the first violation gives the error of the launch**, and everything
  but the geometry of the kernel stays as it was.
-/

import ComputeHost.Proofs.Host.Binding
import ComputeHost.Proofs.Host.Geometry
import ComputeHost.Proofs.Host.Session

set_option linter.unusedSectionVars false

namespace ComputeHost.Host

open ComputeHost.Action

/-! ### Guards -/

/-- What a launch has to pass. -/
inductive Guard
  | queue
  | kernel
  | contexts
  | unset
  | dimensions
  | globalsGiven
  | globalsEnough
  | globalSizes
  | offset
  | localSizes
  | waitList
  | events
  | wanted
  | built
  | named
  | count
  | memory
  | arguments
  deriving DecidableEq

namespace Guard

/-- The number of a guard in their order. -/
def rank : Guard → Nat
  | queue => 0
  | kernel => 1
  | contexts => 2
  | unset => 3
  | dimensions => 4
  | globalsGiven => 5
  | globalsEnough => 6
  | globalSizes => 7
  | offset => 8
  | localSizes => 9
  | waitList => 10
  | events => 11
  | wanted => 12
  | built => 13
  | named => 14
  | count => 15
  | memory => 16
  | arguments => 17

theorem rank_injective {one other : Guard} (same : one.rank = other.rank) : one = other := by
  cases one <;> cases other <;> first | rfl | cases same

/-- One place of a guard is passed before another. -/
def Precedes (earlier : Guard) (place : Nat) (guard : Guard) (index : Nat) : Prop :=
  earlier.rank < guard.rank ∨ earlier = guard ∧ place < index

/-- The guard is passed before the geometry is noted. -/
def isEarly (guard : Guard) : Bool := guard.rank ≤ Guard.wanted.rank

end Guard

/-- A violation at a place before which there is none. -/
def IsFirst (violates : Guard → Nat → HostError → Prop) (guard : Guard) (index : Nat)
    (error : HostError) : Prop :=
  violates guard index error ∧
    ∀ earlier place cause, earlier.Precedes place guard index → ¬ violates earlier place cause

open Classical in
/-- Where there is a violation there is a first one. -/
theorem exists_isFirst {violates : Guard → Nat → HostError → Prop}
    (violated : ∃ guard index error, violates guard index error) :
    ∃ guard index error, IsFirst violates guard index error := by
  have ranked : ∃ rank guard index error, guard.rank = rank ∧ violates guard index error := by
    obtain ⟨guard, index, error, holds⟩ := violated
    exact ⟨guard.rank, guard, index, error, rfl, holds⟩
  obtain ⟨guard, index, error, lowest, holds⟩ := Nat.find_spec ranked
  have placed : ∃ index error, violates guard index error := ⟨index, error, holds⟩
  obtain ⟨error, holds⟩ := Nat.find_spec placed
  refine ⟨guard, Nat.find placed, error, holds, fun earlier place cause precedes sooner => ?_⟩
  rcases precedes with lower | ⟨rfl, before⟩
  · rw [lowest] at lower
    exact Nat.find_min ranked lower ⟨earlier, place, cause, rfl, sooner⟩
  · exact Nat.find_min placed before ⟨cause, sooner⟩

/-- Checks that settle the guards from one number to before another: they fail with the error of the
first violation, and pass if there is none. -/
structure Settles {α : Type} (violates : Guard → Nat → HostError → Prop) (start stop : Nat)
    (check : Except HostError α) : Prop where
  fails : ∀ {guard index error}, start ≤ guard.rank → guard.rank < stop →
    violates guard index error →
    (∀ earlier place cause, start ≤ earlier.rank → earlier.Precedes place guard index →
      ¬ violates earlier place cause) → check = .error error
  passes : (∀ guard index error, start ≤ guard.rank → guard.rank < stop →
    ¬ violates guard index error) → ∃ value, check = .ok value

namespace Settles

variable {α β : Type} {violates : Guard → Nat → HostError → Prop} {start middle stop : Nat}
  {check : Except HostError α} {next : α → Except HostError β} {error : HostError}

/-- What passes settles no guard. -/
theorem ok (value : α) : Settles violates start start (.ok value : Except HostError α) :=
  ⟨fun low high => absurd high (Nat.not_lt.mpr low), fun _ => ⟨value, rfl⟩⟩

/-- **Checks in sequence settle their guards in sequence.** -/
theorem bind (low : start ≤ middle) (high : middle ≤ stop)
    (begins : Settles violates start middle check)
    (goes : ∀ value, check = .ok value → Settles violates middle stop (next value)) :
    Settles violates start stop (check >>= next) := by
  constructor
  · intro guard index error from_start to_stop holds before
    by_cases early : guard.rank < middle
    · rw [begins.fails from_start early holds before]
      rfl
    · -- the guards of the first checks all come before this one, so these pass
      obtain ⟨value, passed⟩ := begins.passes fun earlier place cause first within =>
        before earlier place cause first (.inl (by omega))
      rw [except_bind_of_ok passed]
      exact (goes value passed).fails (Nat.le_of_not_lt early) to_stop holds
        fun earlier place cause first => before earlier place cause (Nat.le_trans low first)
  · intro clear
    obtain ⟨value, passed⟩ := begins.passes fun guard place cause first within =>
      clear guard place cause first (Nat.lt_of_lt_of_le within high)
    rw [except_bind_of_ok passed]
    exact (goes value passed).passes fun guard place cause first =>
      clear guard place cause (Nat.le_trans low first)

/-- A guard is violated, at no place before this one. -/
theorem blocked (guard : Guard) {index : Nat} (within : guard.rank < stop)
    (holds : violates guard index error)
    (unique : ∀ cause, violates guard index cause → cause = error)
    (first : ∀ place cause, place < index → ¬ violates guard place cause) :
    Settles violates guard.rank stop (.error error : Except HostError α) := by
  constructor
  · intro other place cause low high holds' before
    rcases Nat.lt_or_eq_of_le low with later | same
    · exact absurd holds (before guard index error (Nat.le_refl _) (.inl later))
    · cases Guard.rank_injective same
      rcases Nat.lt_trichotomy index place with later | rfl | sooner
      · exact absurd holds (before guard index error (Nat.le_refl _) (.inr ⟨rfl, later⟩))
      · rw [unique cause holds']
      · exact absurd holds' (first place cause sooner)
  · exact fun clear => absurd holds (clear guard index error (Nat.le_refl _) within)

/-- A guard is violated at its only place. -/
theorem refused (guard : Guard) (within : guard.rank < stop) (holds : violates guard 0 error)
    (unique : ∀ cause, violates guard 0 cause → cause = error) :
    Settles violates guard.rank stop (.error error : Except HostError α) :=
  blocked guard within holds unique fun place _ before => absurd before (Nat.not_lt_zero place)

/-- A guard that nothing violates is passed. -/
theorem skip (guard : Guard) (clear : ∀ index cause, ¬ violates guard index cause)
    (rest : Settles violates (guard.rank + 1) stop check) :
    Settles violates guard.rank stop check := by
  constructor
  · intro other index error low high holds before
    rcases Nat.lt_or_eq_of_le low with later | same
    · exact rest.fails later high holds fun earlier place cause first =>
        before earlier place cause (Nat.le_of_lt first)
    · cases Guard.rank_injective same
      exact absurd holds (clear index error)
  · exact fun none => rest.passes fun other index error low =>
      none other index error (Nat.le_of_lt low)

/-- **A guard with one condition.** Where it holds, the checks end with the error; where it does
not, they go on. -/
theorem single (guard : Guard) (condition : Prop) (within : guard.rank < stop)
    (holds : condition → violates guard 0 error)
    (only : ∀ {index cause}, violates guard index cause → condition ∧ cause = error)
    (fails : condition → check = .error error)
    (rest : ¬ condition → Settles violates (guard.rank + 1) stop check) :
    Settles violates guard.rank stop check := by
  by_cases condition
  · rename_i given
    rw [fails given]
    exact refused guard within (holds given) fun cause violated => (only violated).2
  · rename_i absent
    exact skip guard (fun index cause violated => absent (only violated).1) (rest absent)

end Settles

/-! ### Violations -/

section Violations

variable {δ : Type} [DeviceDriver δ]

/-- What violates a guard of a launch, at which place, and with which error. -/
inductive Violates (host : Host δ) (queue : QueueHandle) (kernel : KernelHandle)
    (range : LaunchRange) (waits : WaitList) : Guard → Nat → HostError → Prop
  /-- The queue is not live. -/
  | queue (dead : host.registry.queues.get? queue = none) :
      Violates host queue kernel range waits .queue 0 (.invalidHandle .queue)
  /-- The kernel is not live. -/
  | kernel (dead : host.registry.kernels.get? kernel = none) :
      Violates host queue kernel range waits .kernel 0 (.invalidHandle .kernel)
  /-- Queue and kernel belong to different contexts. -/
  | contexts {line : Queue} {made : Kernel} (queued : host.registry.queues.get? queue = some line)
      (held : host.registry.kernels.get? kernel = some made) (apart : made.context ≠ line.context) :
      Violates host queue kernel range waits .contexts 0 (.contextMismatch .kernel)
  /-- No argument is set. -/
  | unset {made : Kernel} (held : host.registry.kernels.get? kernel = some made)
      (empty : ∀ argument ∈ made.arguments, argument = none) :
      Violates host queue kernel range waits .unset 0 (.kernelArgs 0 made.arguments.length)
  /-- A launch has one to three dimensions. -/
  | dimensions (bad : range.dimensions = 0 ∨ 3 < range.dimensions) :
      Violates host queue kernel range waits .dimensions 0 (.workDimension range.dimensions)
  /-- There are no global sizes. -/
  | globalsGiven (absent : range.globalSize = none) :
      Violates host queue kernel range waits .globalsGiven 0
        (.globalWorkSize "no global work size")
  /-- There are fewer global sizes than dimensions. -/
  | globalsEnough {sizes : List Nat} (given : range.globalSize = some sizes)
      (few : sizes.length < range.dimensions) :
      Violates host queue kernel range waits .globalsEnough 0
        (.globalWorkSize
          (toString sizes.length ++ " sizes for " ++ toString range.dimensions ++ " dimensions"))
  /-- A global size is zero or no word. -/
  | globalSizes {sizes : List Nat} {dimension size : Nat}
      (given : range.globalSize = some sizes) (within : dimension < range.dimensions)
      (there : sizes[dimension]? = some size) (bad : size = 0 ∨ 2 ^ 32 ≤ size) :
      Violates host queue kernel range waits .globalSizes dimension
        (.globalWorkSize (toString size ++ " in dimension " ++ toString dimension))
  /-- The range does not start at zero. -/
  | offset {offsets : List Nat} {dimension start : Nat}
      (given : range.globalOffset = some offsets) (within : dimension < range.dimensions)
      (there : offsets[dimension]? = some start) (nonzero : start ≠ 0) :
      Violates host queue kernel range waits .offset 0 (.unimplemented "global work offset")
  /-- A local size, which is zero where it is missing, does not divide the global size. -/
  | localSizes {sizes parts : List Nat} {dimension size : Nat}
      (given : range.globalSize = some sizes) (split : range.localSize = some parts)
      (within : dimension < range.dimensions) (there : sizes[dimension]? = some size)
      (bad : parts.getD dimension 0 = 0 ∨ ¬ parts.getD dimension 0 ∣ size) :
      Violates host queue kernel range waits .localSizes dimension
        (.workGroupSize dimension (parts.getD dimension 0) size)
  /-- The events are not as many as they are said to be, or an empty list is given. -/
  | waitList (none_right : ¬ (waits.events = none ∧ waits.count = 0))
      (some_right : ∀ events, waits.events = some events → events ≠ [] →
        waits.count ≠ events.length) :
      Violates host queue kernel range waits .waitList 0 .eventWaitList
  /-- There are events to wait for. -/
  | events {events : List Nat} (given : waits.events = some events) (nonempty : events ≠ []) :
      Violates host queue kernel range waits .events 0 (.unimplemented "event wait lists")
  /-- The launch is to give an event back. -/
  | wanted (wants : waits.wantsEvent = true) :
      Violates host queue kernel range waits .wanted 0 (.unimplemented "command events")
  /-- The program is not built for the device of the queue, or its module is not registered. -/
  | built {line : Queue} {made : Kernel} (queued : host.registry.queues.get? queue = some line)
      (held : host.registry.kernels.get? kernel = some made)
      (unbuilt : moduleFor? queue kernel host = none) :
      Violates host queue kernel range waits .built 0 .programNotBuilt
  /-- The module has no kernel of the name. -/
  | named {made : Kernel} {module : KernelModule}
      (held : host.registry.kernels.get? kernel = some made)
      (built : moduleFor? queue kernel host = some module)
      (unknown : module.kernel? made.name = none) :
      Violates host queue kernel range waits .named 0 (.kernelNotFound made.name)
  /-- There are more or fewer arguments than parameters. -/
  | count {made : Kernel} {signature : KernelSignature}
      (held : host.registry.kernels.get? kernel = some made)
      (known : declared? queue kernel host = some signature)
      (other : made.boundCount ≠ signature.parameters.length) :
      Violates host queue kernel range waits .count 0
        (.kernelArgs made.boundCount signature.parameters.length)
  /-- There is no memory for the block. -/
  | memory {signature : KernelSignature} {reason : String}
      (known : declared? queue kernel host = some signature)
      (refused : blockRefusal? host.settings.hostMemory
        (ParameterLayout.ofSignature signature).size = some reason) :
      Violates host queue kernel range waits .memory 0 (.memAllocation "host" reason)
  /-- An argument is not set. -/
  | missing {made : Kernel} {signature : KernelSignature} {index : Nat} {parameter : Parameter}
      (held : host.registry.kernels.get? kernel = some made)
      (known : declared? queue kernel host = some signature)
      (there : signature.parameters[index]? = some parameter)
      (absent : made.arguments[index]?.getD none = none) :
      Violates host queue kernel range waits .arguments index (.argValue index)
  /-- An argument does not fit its parameter. -/
  | misfit {line : Queue} {device : Device δ} {made : Kernel} {signature : KernelSignature}
      {index : Nat} {parameter : Parameter} {argument : Bytes} {error : HostError}
      (queued : host.registry.queues.get? queue = some line)
      (live : host.registry.devices.get? line.device = some device)
      (held : host.registry.kernels.get? kernel = some made)
      (known : declared? queue kernel host = some signature)
      (there : signature.parameters[index]? = some parameter)
      (given : made.arguments[index]? = some (some argument))
      (misfits : (host.binding line.device device.name).Misfits index
        parameter argument error) :
      Violates host queue kernel range waits .arguments index error

variable {host : Host δ} {queue : QueueHandle} {kernel : KernelHandle} {range : LaunchRange}
  {waits : WaitList}

/-! ### The checks before the geometry is noted -/

theorem isConsistent_eq_false : waits.isConsistent = false ↔
    ¬ (waits.events = none ∧ waits.count = 0) ∧
      ∀ events, waits.events = some events → events ≠ [] → waits.count ≠ events.length := by
  unfold WaitList.isConsistent
  cases waits.events with
  | none => simp
  | some events =>
    simp
    tauto

theorem settles_waits :
    Settles (Violates host queue kernel range waits) 10 13 waits.check := by
  unfold WaitList.check
  refine .single .waitList (waits.isConsistent = false) (by decide) (fun bad => ?_)
    (fun violated => ?_) (fun bad => by rw [bad]; rfl) fun good => ?_
  · obtain ⟨none_right, some_right⟩ := isConsistent_eq_false.mp bad
    exact .waitList none_right some_right
  · cases violated with
    | waitList none_right some_right =>
      exact ⟨isConsistent_eq_false.mpr ⟨none_right, some_right⟩, rfl⟩
  have good : waits.isConsistent = true := by simpa using good
  simp only [good]
  refine .single .events (waits.events.isSome = true) (by decide) (fun given => ?_)
    (fun violated => ?_) (fun given => by rw [given]; rfl) fun absent => ?_
  · -- the list is consistent, so it is not empty
    obtain ⟨events, given⟩ := Option.isSome_iff_exists.mp given
    refine .events given fun empty => ?_
    unfold WaitList.isConsistent at good
    simp [given, empty] at good
  · cases violated with
    | events given nonempty => exact ⟨by rw [given]; rfl, rfl⟩
  simp only [absent]
  refine .single .wanted (waits.wantsEvent = true) (by decide) .wanted (fun violated => ?_)
    (fun wants => by rw [wants]; rfl) fun unwanted => ?_
  · cases violated with
    | wanted wants => exact ⟨wants, rfl⟩
  simp only [unwanted]
  exact .ok _

theorem getElem?_take_eq_some {α : Type} {items : List α} {item : α} {count index : Nat} :
    (items.take count)[index]? = some item ↔ index < count ∧ items[index]? = some item := by
  rw [List.getElem?_take]
  split <;> simp [*]

theorem isBad_iff {size : Nat} :
    size = 0 ∨ Geometry.maxSize < size ↔ size = 0 ∨ 2 ^ 32 ≤ size := by
  have largest : Geometry.maxSize = 2 ^ 32 - 1 := rfl
  omega

theorem settles_globals :
    Settles (Violates host queue kernel range waits) 5 8 (Geometry.globals range) := by
  unfold Geometry.globals
  cases given : range.globalSize with
  | none =>
    refine .refused .globalsGiven (by decide) (.globalsGiven given) (fun cause violated => ?_)
    cases violated
    rfl
  | some sizes =>
    refine .skip .globalsGiven (fun index cause violated => ?_) ?_
    · cases violated with
      | globalsGiven absent => cases given.symm.trans absent
    refine .single .globalsEnough (sizes.length < range.dimensions) (by decide)
      (.globalsEnough given) (fun violated => ?_) (fun few => if_pos few) fun enough => ?_
    · cases violated with
      | globalsEnough given' few =>
        cases given.symm.trans given'
        exact ⟨few, rfl⟩
    simp only [if_neg enough]
    cases bad : Geometry.badSize? (sizes.take range.dimensions) with
    | some found =>
      obtain ⟨size, dimension⟩ := found
      obtain ⟨there, wrong, passed⟩ := Geometry.badSize?_eq_some bad
      obtain ⟨within, there⟩ := getElem?_take_eq_some.mp there
      refine .blocked .globalSizes (by decide)
        (.globalSizes given within there (isBad_iff.mp wrong)) (fun cause violated => ?_)
        fun place cause before violated => ?_
      · cases violated with
        | globalSizes given' within' there' wrong' =>
          cases given.symm.trans given'
          cases there.symm.trans there'
          rfl
      · cases violated with
        | globalSizes given' within' there' wrong' =>
          cases given.symm.trans given'
          exact passed place _ before (getElem?_take_eq_some.mpr ⟨within', there'⟩)
            (isBad_iff.mpr wrong')
    | none =>
      refine .skip .globalSizes (fun dimension cause violated => ?_) (.ok _)
      cases violated with
      | globalSizes given' within there wrong =>
        cases given.symm.trans given'
        obtain ⟨positive, small⟩ := Geometry.badSize?_eq_none bad _
          (List.mem_of_getElem? (getElem?_take_eq_some.mpr ⟨within, there⟩))
        have fine := isBad_iff.mpr wrong
        omega

theorem settles_locals {sizes : List Nat} (given : range.globalSize = some sizes) :
    Settles (Violates host queue kernel range waits) 9 10
      (Geometry.locals range (sizes.take range.dimensions)) := by
  unfold Geometry.locals
  cases split : range.localSize with
  | none =>
    refine .skip .localSizes (fun dimension cause violated => ?_) (.ok _)
    cases violated with
    | localSizes _ split' _ _ _ => cases split.symm.trans split'
  | some parts =>
    simp only
    cases bad : Geometry.badLocal? (sizes.take range.dimensions) parts with
    | some found =>
      obtain ⟨dimension, part, size⟩ := found
      obtain ⟨there, rfl, wrong, passed⟩ := Geometry.badLocal?_eq_some bad
      obtain ⟨within, there⟩ := getElem?_take_eq_some.mp there
      refine .blocked .localSizes (by decide) (.localSizes given split within there wrong)
        (fun cause violated => ?_) fun place cause before violated => ?_
      · cases violated with
        | localSizes given' split' within' there' wrong' =>
          cases given.symm.trans given'
          cases split.symm.trans split'
          cases there.symm.trans there'
          rfl
      · cases violated with
        | localSizes given' split' within' there' wrong' =>
          cases given.symm.trans given'
          cases split.symm.trans split'
          exact passed place _ before (getElem?_take_eq_some.mpr ⟨within', there'⟩) wrong'
    | none =>
      refine .skip .localSizes (fun dimension cause violated => ?_) (.ok _)
      cases violated with
      | localSizes given' split' within there wrong =>
        cases given.symm.trans given'
        cases split.symm.trans split'
        obtain ⟨nonzero, divides⟩ := Geometry.badLocal?_eq_none bad
          (getElem?_take_eq_some.mpr ⟨within, there⟩)
        exact wrong.elim nonzero fun other => other divides

theorem settles_ofRange :
    Settles (Violates host queue kernel range waits) 4 10 (Geometry.ofRange range) := by
  unfold Geometry.ofRange
  have test : (range.dimensions = 0 || Geometry.maxDimensions < range.dimensions) = true ↔
      range.dimensions = 0 ∨ 3 < range.dimensions := by
    rw [Bool.or_eq_true, decide_eq_true_eq, decide_eq_true_eq]
    rfl
  refine .single .dimensions (range.dimensions = 0 ∨ 3 < range.dimensions) (by decide)
    .dimensions (fun violated => ?_) (fun bad => if_pos (test.mpr bad)) fun fine => ?_
  · cases violated with
    | dimensions bad => exact ⟨bad, rfl⟩
  rw [if_neg (mt test.mp fine)]
  refine settles_globals.bind (by decide) (by decide) fun whole accepted => ?_
  obtain ⟨sizes, given, rfl⟩ := Geometry.globals_eq_take accepted
  refine .single .offset (Geometry.startsAtZero range = false) (by decide) (fun away => ?_)
    (fun violated => ?_) (fun away => by rw [away]; rfl) fun zero => ?_
  · obtain ⟨offsets, dimension, start, found, within, there, nonzero⟩ :=
      Geometry.startsAtZero_eq_false.mp away
    exact .offset found within there nonzero
  · cases violated with
    | offset found within there nonzero =>
      exact ⟨Geometry.startsAtZero_eq_false.mpr ⟨_, _, _, found, within, there, nonzero⟩, rfl⟩
  rw [if_pos (by simpa using zero)]
  exact (settles_locals given).bind (by decide) (by decide) fun parts _ => .ok _

/-- A handle is looked up. -/
theorem settles_checked {kind : ObjectKind} {α β : Type} {arena : Arena kind α}
    {handle : Handle kind} {stop : Nat} {next : α → Except HostError β} (guard : Guard)
    (within : guard.rank < stop)
    (holds : arena.get? handle = none →
      Violates host queue kernel range waits guard 0 (.invalidHandle kind))
    (only : ∀ {index cause}, Violates host queue kernel range waits guard index cause →
      arena.get? handle = none ∧ cause = .invalidHandle kind)
    (rest : ∀ object, arena.get? handle = some object →
      Settles (Violates host queue kernel range waits) (guard.rank + 1) stop (next object)) :
    Settles (Violates host queue kernel range waits) guard.rank stop
      (arena.checked handle >>= next) := by
  refine .single guard (arena.get? handle = none) within holds only (fun dead => ?_) fun live => ?_
  · rw [Arena.checked, dead]
    rfl
  · obtain ⟨object, found⟩ := Option.ne_none_iff_exists'.mp live
    rw [except_bind_of_ok (Arena.checked_eq_ok_iff.mpr found)]
    exact rest object found

theorem boundCount_eq_zero {made : Kernel} :
    made.boundCount = 0 ↔ ∀ argument ∈ made.arguments, argument = none := by
  unfold Kernel.boundCount
  rw [List.countP_eq_zero]
  simp only [Bool.not_eq_true, Option.isSome_eq_false_iff, Option.isNone_iff_eq_none]

/-- A live queue and a live kernel of its context with an argument pass the guards in front of the
range. -/
theorem not_violates_of_ready {line : Queue} {made : Kernel} {argument : Bytes} {guard : Guard}
    {index : Nat} {error : HostError} (queued : host.registry.queues.get? queue = some line)
    (held : host.registry.kernels.get? kernel = some made)
    (together : made.context = line.context) (set : some argument ∈ made.arguments)
    (early : guard.rank < Guard.dimensions.rank) :
    ¬ Violates host queue kernel range waits guard index error := by
  intro violated
  cases violated with
  | queue dead => cases queued.symm.trans dead
  | kernel dead => cases held.symm.trans dead
  | contexts queued' held' apart =>
    cases queued.symm.trans queued'
    cases held.symm.trans held'
    exact apart together
  | unset held' empty =>
    cases held.symm.trans held'
    cases empty _ set
  | _ => exact absurd early (by decide)

theorem settles_checkLaunch :
    Settles (Violates host queue kernel range waits) 0 13
      (checkLaunch queue kernel range waits host) := by
  unfold checkLaunch
  refine settles_checked .queue (by decide) .queue (fun violated => ?_) fun line queued => ?_
  · cases violated with
    | queue dead => exact ⟨dead, rfl⟩
  refine settles_checked .kernel (by decide) .kernel (fun violated => ?_) fun made held => ?_
  · cases violated with
    | kernel dead => exact ⟨dead, rfl⟩
  refine .single .contexts (made.context ≠ line.context) (by decide) (.contexts queued held)
    (fun violated => ?_) (fun apart => by rw [if_pos apart]; rfl) fun together => ?_
  · cases violated with
    | contexts queued' held' apart =>
      cases queued.symm.trans queued'
      cases held.symm.trans held'
      exact ⟨apart, rfl⟩
  rw [if_neg together]
  refine .single .unset (made.boundCount = 0) (by decide)
    (fun empty => .unset held (boundCount_eq_zero.mp empty)) (fun violated => ?_)
    (fun empty => by rw [if_pos empty]; rfl) fun some_set => ?_
  · cases violated with
    | unset held' empty =>
      cases held.symm.trans held'
      exact ⟨boundCount_eq_zero.mpr empty, rfl⟩
  rw [if_neg some_set]
  exact settles_ofRange.bind (by decide) (by decide) fun geometry _ =>
    settles_waits.bind (by decide) (by decide) fun _ _ => .ok _

/-! ### The checks after the geometry is noted -/

/-- The host with a geometry noted with a kernel. -/
def noted (host : Host δ) (kernel : KernelHandle) (geometry : Geometry) : Host δ :=
  { host with
    registry :=
      { host.registry with
        kernels := host.registry.kernels.modify kernel fun entry =>
          { entry with geometry := some geometry } } }

section Late

variable {line : Queue} {made : Kernel} {device : Device δ} {signature : KernelSignature}
  {geometry : Geometry} {index : Nat} {cause : HostError}

/-- The arguments are violated where one of them cannot be bound. -/
theorem violates_arguments_iff (queued : host.registry.queues.get? queue = some line)
    (live : host.registry.devices.get? line.device = some device)
    (held : host.registry.kernels.get? kernel = some made)
    (known : declared? queue kernel host = some signature) :
    Violates host queue kernel range waits .arguments index cause ↔
      ∃ parameter, signature.parameters[index]? = some parameter ∧
        (host.binding line.device device.name).bindArgument index parameter
          (made.arguments[index]?.getD none) = .error cause := by
  constructor
  · intro violated
    cases violated with
    | missing held' known' there absent =>
      cases held.symm.trans held'
      cases known.symm.trans known'
      exact ⟨_, there, by rw [absent]; rfl⟩
    | misfit queued' live' held' known' there given misfits =>
      cases queued.symm.trans queued'
      cases live.symm.trans live'
      cases held.symm.trans held'
      cases known.symm.trans known'
      exact ⟨_, there, by rw [given]; exact misfits.bindArgument_eq⟩
  · rintro ⟨parameter, there, failed⟩
    cases given : made.arguments[index]?.getD none with
    | none =>
      rw [given] at failed
      cases failed
      exact .missing held known there given
    | some argument =>
      rw [given] at failed
      have given : made.arguments[index]? = some (some argument) := by
        cases slot : made.arguments[index]? with
        | none => rw [slot] at given; cases given
        | some entry => rw [slot] at given; exact congrArg some given
      exact .misfit queued live held known there given (Binding.bindArgument_eq_error.mp failed)

/-- Arguments are bound one after the other, and the first that cannot be ends this. -/
theorem settles_arguments {α : Type} (queued : host.registry.queues.get? queue = some line)
    (live : host.registry.devices.get? line.device = some device)
    (held : host.registry.kernels.get? kernel = some made)
    (known : declared? queue kernel host = some signature) (give : List Bytes → α) :
    Settles (Violates host queue kernel range waits) 17 18
      (((host.binding line.device device.name).bindArguments 0
        signature.parameters made.arguments).map give) := by
  have fails : ∀ place cause, Violates host queue kernel range waits .arguments place cause ↔ _ :=
    fun _ _ => violates_arguments_iff queued live held known
  cases bound : (host.binding line.device device.name).bindArguments 0
      signature.parameters made.arguments with
  | error error =>
    obtain ⟨place, parameter, there, failed, passed⟩ := Binding.bindArguments_eq_error.mp bound
    rw [Nat.zero_add] at failed
    refine .blocked .arguments (by decide) ((fails _ _).mpr ⟨parameter, there, failed⟩)
      (fun cause violated => ?_) fun earlier cause before violated => ?_
    · obtain ⟨other, there', failed'⟩ := (fails _ _).mp violated
      cases there.symm.trans there'
      cases failed.symm.trans failed'
      rfl
    · obtain ⟨other, there', failed'⟩ := (fails _ _).mp violated
      obtain ⟨piece, fine⟩ := passed earlier other before there'
      rw [Nat.zero_add] at fine
      cases fine.symm.trans failed'
  | ok pieces =>
    refine .skip .arguments (fun place cause violated => ?_) (.ok _)
    obtain ⟨parameter, there, failed⟩ := (fails _ _).mp violated
    obtain ⟨count, each⟩ := Binding.bindArguments_eq_ok.mp bound
    obtain ⟨within, -⟩ := List.getElem?_eq_some_iff.mp there
    have fine := each place parameter _ there (List.getElem?_eq_getElem (count.symm ▸ within))
    rw [Nat.zero_add] at fine
    cases fine.symm.trans failed

theorem settles_block (queued : host.registry.queues.get? queue = some line)
    (live : host.registry.devices.get? line.device = some device)
    (held : host.registry.kernels.get? kernel = some made)
    (known : declared? queue kernel host = some signature) :
    Settles (Violates host queue kernel range waits) 15 18
      ((host.binding line.device device.name).block signature made) := by
  refine .single .count (made.boundCount ≠ signature.parameters.length) (by decide)
    (.count held known) (fun violated => ?_) Binding.block_of_count fun all => ?_
  · cases violated with
    | count held' known' other =>
      cases held.symm.trans held'
      cases known.symm.trans known'
      exact ⟨other, rfl⟩
  have all : made.boundCount = signature.parameters.length := not_not.mp all
  cases room : blockRefusal? host.settings.hostMemory
      (ParameterLayout.ofSignature signature).size with
  | some reason =>
    rw [Binding.block_of_refusal all room]
    refine .refused .memory (by decide) (.memory known room) (fun cause violated => ?_)
    cases violated with
    | memory known' refused =>
      cases known.symm.trans known'
      cases room.symm.trans refused
      rfl
  | none =>
    refine .skip .memory (fun index cause violated => ?_) ?_
    · cases violated with
      | memory known' refused =>
        cases known.symm.trans known'
        cases room.symm.trans refused
    rw [Binding.block_of_room all room]
    exact settles_arguments queued live held known _

/-- The module of a launch is looked up on the device of the queue. -/
theorem launchModule_of_owner {program : Program}
    (queued : host.registry.queues.get? queue = some line)
    (held : host.registry.kernels.get? kernel = some made)
    (owner : host.registry.programs.get? made.program = some program) :
    (host.noted kernel geometry).launchModule program line.device =
      match moduleFor? queue kernel host with
      | some module => .ok module
      | none => .error .programNotBuilt := by
  rw [moduleFor?_eq queued held owner]
  rfl

/-- The checks after the geometry is noted do not depend on it. -/
theorem settles_launchRequest (intact : host.registry.Intact)
    (queued : host.registry.queues.get? queue = some line)
    (held : host.registry.kernels.get? kernel = some made) :
    Settles (Violates host queue kernel range waits) 13 18
      (launchRequest line kernel geometry (host.noted kernel geometry)) := by
  obtain ⟨program, owner, -⟩ := intact.kernelContext made (Arena.mem_objects_of_get? held)
  obtain ⟨device, live⟩ := Option.isSome_iff_exists.mp (intact.live_of_queue queued)
  have kernel_found : (host.noted kernel geometry).registry.kernels.checked kernel =
      .ok { made with geometry := some geometry } := by
    refine Arena.checked_eq_ok_iff.mpr ((Arena.get?_modify ..).trans ?_)
    rw [if_pos rfl, held]
    rfl
  have program_found : (host.noted kernel geometry).registry.programs.checked made.program =
      .ok program := Arena.checked_eq_ok_iff.mpr owner
  have device_found : (host.noted kernel geometry).registry.devices.checked line.device =
      .ok device := Arena.checked_eq_ok_iff.mpr live
  unfold launchRequest
  rw [except_bind_of_ok kernel_found, except_bind_of_ok program_found,
    launchModule_of_owner queued held owner]
  cases built : moduleFor? queue kernel host with
  | none =>
    refine .refused .built (by decide) (.built queued held built) (fun cause violated => ?_)
    cases violated
    rfl
  | some module =>
    refine .skip .built (fun index cause violated => ?_) ?_
    · cases violated with
      | built _ _ unbuilt => cases built.symm.trans unbuilt
    have known := declared?_eq held built
    rw [except_bind_of_ok rfl]
    simp only
    cases found : module.kernel? made.name with
    | none =>
      refine .refused .named (by decide) (.named held built found) (fun cause violated => ?_)
      cases violated with
      | named held' _ _ =>
        cases held.symm.trans held'
        rfl
    | some signature =>
      refine .skip .named (fun index cause violated => ?_) ?_
      · cases violated with
        | named held' built' unknown =>
          cases held.symm.trans held'
          cases built.symm.trans built'
          cases found.symm.trans unknown
      simp only
      rw [except_bind_of_ok device_found]
      exact (settles_block queued live held (known.trans found)).bind (by decide) (by decide)
        fun parameters _ => .ok _

end Late

/-! ### Launches -/

variable {history : List Exchange} {error : HostError} {line : Queue} {geometry : Geometry}

theorem step_of_enqueueKernel {after : Host δ}
    (failed : enqueueKernel queue kernel range waits host = .error error after) :
    step (.enqueueKernel queue kernel range waits) host = (.error error, after) := by
  have outcome : perform (.enqueueKernel queue kernel range waits) host = .error error after :=
    bind_of_error failed
  unfold step
  rw [outcome]

/-- A launch that fails its first checks. -/
theorem step_of_checkLaunch (failed : checkLaunch queue kernel range waits host = .error error) :
    step (.enqueueKernel queue kernel range waits) host = (.error error, host) :=
  step_of_enqueueKernel (bind_of_error (check_of_error failed))

/-- A launch that passes its first checks notes its geometry and goes on. -/
theorem enqueueKernel_of_checkLaunch
    (passed : checkLaunch queue kernel range waits host = .ok (line, geometry)) :
    enqueueKernel queue kernel range waits host =
      (check (launchRequest line kernel geometry) >>= fun request =>
        takeCollectors line.context >>= fun collectors =>
          dispatch line.device { request with collectors }) (host.noted kernel geometry) := by
  have noting : changeKernel kernel (fun entry => { entry with geometry := some geometry }) host =
      .ok () (host.noted kernel geometry) := rfl
  unfold enqueueKernel
  rw [bind_of_ok (check_of_ok passed)]
  exact bind_of_ok noting

/-- A launch that fails its later checks. -/
theorem step_of_launchRequest
    (passed : checkLaunch queue kernel range waits host = .ok (line, geometry))
    (failed : launchRequest line kernel geometry (host.noted kernel geometry) = .error error) :
    step (.enqueueKernel queue kernel range waits) host =
      (.error error, host.noted kernel geometry) := by
  refine step_of_enqueueKernel ?_
  rw [enqueueKernel_of_checkLaunch passed, bind_of_error (check_of_error failed)]

/-- A launch that passes all checks is handed over. -/
theorem handOver_of_launchRequest {request : LaunchRequest} {context : Context}
    (passed : checkLaunch queue kernel range waits host = .ok (line, geometry))
    (asked : launchRequest line kernel geometry (host.noted kernel geometry) = .ok request)
    (there : host.registry.contexts.get? line.context = some context) :
    ∃ handed after, handOver queue kernel range waits host = .ok handed after := by
  have noting : changeKernel kernel (fun entry => { entry with geometry := some geometry }) host =
      .ok () (host.noted kernel geometry) := rfl
  have found : (host.noted kernel geometry).registry.contexts.checked line.context = .ok context :=
    Arena.checked_eq_ok_iff.mpr there
  unfold handOver
  rw [bind_of_ok (check_of_ok passed)]
  simp only
  rw [bind_of_ok noting, bind_of_ok (check_of_ok asked)]
  unfold takeCollectors
  rw [bind_assoc, bind_of_ok (check_of_ok found)]
  exact ⟨_, _, rfl⟩

/-- **The first violation gives the error of a launch.** Before the events are checked the launch
changes nothing at all; after that it has noted its geometry with the kernel, and nothing else. A
launch that violates nothing is handed over to the device. -/
theorem Session.first_violation (session : Session history host) (queue : QueueHandle)
    (kernel : KernelHandle) (range : LaunchRange) (waits : WaitList) :
    (∀ guard index error, IsFirst (Violates host queue kernel range waits) guard index error →
      (guard.isEarly = true →
        step (.enqueueKernel queue kernel range waits) host = (.error error, host)) ∧
      (guard.isEarly = false → ∃ geometry, Geometry.ofRange range = .ok geometry ∧
        step (.enqueueKernel queue kernel range waits) host =
          (.error error, host.noted kernel geometry))) ∧
    ((∃ guard index error, IsFirst (Violates host queue kernel range waits) guard index error) ∨
      ∃ handed after, handOver queue kernel range waits host = .ok handed after) := by
  have intact := session.upheld.intact
  have begins : Settles (Violates host queue kernel range waits) 0 13
      (checkLaunch queue kernel range waits host) := settles_checkLaunch
  -- a launch that passes the first checks is of a live queue and a live kernel
  have goes : ∀ {line geometry}, checkLaunch queue kernel range waits host = .ok (line, geometry) →
      (∀ error, ¬ Violates host queue kernel range waits .kernel 0 error) →
      Settles (Violates host queue kernel range waits) 13 18
        (launchRequest line kernel geometry (host.noted kernel geometry)) := by
    intro line geometry passed alive
    obtain ⟨made, held⟩ := Option.ne_none_iff_exists'.mp fun dead => alive _ (.kernel dead)
    exact settles_launchRequest intact (checkLaunch_eq_ok passed).1 held
  constructor
  · rintro guard index error ⟨violated, first⟩
    refine ⟨fun early => ?_, fun late => ?_⟩
    · have within : guard.rank ≤ 12 := of_decide_eq_true early
      exact step_of_checkLaunch (begins.fails (Nat.zero_le _) (Nat.lt_succ_of_le within) violated
        fun earlier place cause _ => first earlier place cause)
    · have beyond : ¬ guard.rank ≤ 12 := of_decide_eq_false late
      have last : guard.rank < 18 := by cases guard <;> decide
      obtain ⟨⟨line, geometry⟩, passed⟩ := begins.passes fun earlier place cause _ within =>
        first earlier place cause (.inl (by omega))
      have alive : ∀ error, ¬ Violates host queue kernel range waits .kernel 0 error :=
        fun cause => first .kernel 0 cause (.inl (Nat.lt_of_lt_of_le (by decide)
          (Nat.le_of_not_le beyond)))
      exact ⟨geometry, (checkLaunch_eq_ok passed).2, step_of_launchRequest passed
        ((goes passed alive).fails (by omega) last violated
          fun earlier place cause _ => first earlier place cause)⟩
  · by_cases violated : ∃ guard index error,
        Violates host queue kernel range waits guard index error
    · exact .inl (exists_isFirst violated)
    · right
      have clear : ∀ guard index error,
          ¬ Violates host queue kernel range waits guard index error :=
        fun guard index error holds => violated ⟨guard, index, error, holds⟩
      obtain ⟨⟨line, geometry⟩, passed⟩ := begins.passes fun guard place cause _ _ =>
        clear guard place cause
      obtain ⟨request, asked⟩ := (goes passed (clear .kernel 0)).passes fun guard place cause _ _ =>
        clear guard place cause
      obtain ⟨context, there, -⟩ := intact.queueDevice line
        (Arena.mem_objects_of_get? (checkLaunch_eq_ok passed).1)
      exact handOver_of_launchRequest passed asked there

end Violations

/-- A kernel is ready for a launch when the module of its program is taken away. -/
def withdrawing : List Call :=
  [.platformIds, .createContext [⟨0, 1⟩] false, .createQueue ⟨0, 1⟩ ⟨0, 1⟩ ⟨0⟩,
    .createProgram ⟨0, 1⟩ ["\x7b\"kernels\":[\x7b\"name\":\"k\",\"params\":[\x7b\"type\":" ++
      "\x7b\"kind\":\"scalar\",\"type\":\"u32\"\x7d\x7d]\x7d]\x7d"],
    .buildProgram ⟨0, 1⟩ none none false, .createKernel ⟨0, 1⟩ "k",
    .setArgument ⟨0, 1⟩ 0 [1, 2, 3, 4], .unregisterModule "program0"]

/-- With a size of zero in the second dimension, a local size that does not divide in the first and
events that are not there, the size of zero is the error. With a range that is right, the module
that is not there is the error, and the geometry is noted. -/
theorem first_violation_withdrawing :
    step (.enqueueKernel ⟨0, 1⟩ ⟨0, 1⟩
        { dimensions := 2, globalSize := some [4, 0], localSize := some [3] } { count := 1 })
        (run withdrawing (twin 64 64)).2 =
      (.error (.globalWorkSize "0 in dimension 1"), (run withdrawing (twin 64 64)).2) ∧
    ∃ geometry, Geometry.ofRange (.ofGlobal [2]) = .ok geometry ∧
      step (.enqueueKernel ⟨0, 1⟩ ⟨0, 1⟩ (.ofGlobal [2]) {}) (run withdrawing (twin 64 64)).2 =
        (.error .programNotBuilt, (run withdrawing (twin 64 64)).2.noted ⟨0, 1⟩ geometry) := by
  have session := (run_twin 64 64 withdrawing).session
  have queue_is : ((run withdrawing (twin 64 64)).2.registry.queues.get? ⟨0, 1⟩).map
      Queue.context = some ⟨0, 1⟩ := by decide +kernel
  have kernel_is : ((run withdrawing (twin 64 64)).2.registry.kernels.get? ⟨0, 1⟩).map
      (fun made => (made.context, made.arguments)) = some (⟨0, 1⟩, [some [1, 2, 3, 4]]) := by
    decide +kernel
  have unbuilt : moduleFor? ⟨0, 1⟩ ⟨0, 1⟩ (run withdrawing (twin 64 64)).2 = none :=
    Option.isNone_iff_eq_none.mp (by decide +kernel)
  generalize (run withdrawing (twin 64 64)).2 = host at *
  obtain ⟨line, queued, of_context⟩ := Option.map_eq_some_iff.mp queue_is
  obtain ⟨made, held, shape⟩ := Option.map_eq_some_iff.mp kernel_is
  rw [Prod.mk.injEq] at shape
  have set : some [1, 2, 3, 4] ∈ made.arguments := by
    rw [shape.2]
    exact List.mem_singleton_self _
  have ready : ∀ {range waits guard index error}, guard.rank < 4 →
      ¬ Violates host ⟨0, 1⟩ ⟨0, 1⟩ range waits guard index error :=
    not_violates_of_ready queued held (shape.1.trans of_context.symm) set
  constructor
  · refine ((session.first_violation ⟨0, 1⟩ ⟨0, 1⟩ _ _).1 .globalSizes 1 _
      ⟨.globalSizes rfl (by decide) rfl (.inl rfl),
        fun guard place cause precedes violated => ?_⟩).1 rfl
    rcases precedes with lower | ⟨rfl, before⟩
    · by_cases known : guard.rank < 4
      · exact ready known violated
      cases violated with
      | dimensions bad => exact absurd bad (by decide)
      | globalsGiven absent => cases absent
      | globalsEnough given few =>
        cases given
        exact absurd few (by decide)
      | queue | kernel | contexts | unset => exact known (by decide)
      | _ => exact absurd lower (by decide)
    · cases violated with
      | globalSizes given within there bad =>
        cases given
        cases Nat.lt_one_iff.mp before
        cases there
        exact absurd bad (by decide)
  · refine ((session.first_violation ⟨0, 1⟩ ⟨0, 1⟩ (.ofGlobal [2]) {}).1 .built 0 _
      ⟨.built queued held unbuilt, fun guard place cause precedes violated => ?_⟩).2 rfl
    rcases precedes with lower | ⟨rfl, before⟩
    · by_cases known : guard.rank < 4
      · exact ready known violated
      cases violated with
      | dimensions bad => exact absurd bad (by decide)
      | globalsGiven absent => cases absent
      | globalsEnough given few =>
        cases given
        exact absurd few (by decide)
      | globalSizes given within there bad =>
        cases given
        cases Nat.lt_one_iff.mp within
        cases there
        exact absurd bad (by decide)
      | offset given _ _ _ => cases given
      | localSizes _ split _ _ _ => cases split
      | waitList none_right _ => exact none_right ⟨rfl, rfl⟩
      | events given _ => cases given
      | wanted wants => cases wants
      | queue | kernel | contexts | unset => exact known (by decide)
      | _ => exact absurd lower (by decide)
    · exact absurd before (Nat.not_lt_zero _)

end ComputeHost.Host
