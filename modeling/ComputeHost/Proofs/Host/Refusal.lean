/-
**With which errors checks fail.**

`Refuses fair` says that a check fails only with errors of a class. It is closed under sequences, so
that what a call may fail with is read off the order of its checks.

* `HostError.looksUp` — the errors that say that something was not found.
* `WaitList.check_refuses`, `Geometry.ofRange_refuses`, `Binding.block_refuses` and their kin —
  checks of what a call is given by itself look nothing up.
* `Host.checkLaunch_refuses` — the checks of a launch before its arguments are bound.
-/

import ComputeHost.Proofs.Host.Backend

namespace ComputeHost

/-- Whether the error says that an object, a module or a kernel was not found, or what a device
said. -/
def HostError.looksUp : HostError → Bool
  | .invalidHandle _ | .programNotBuilt | .kernelNotFound _ | .moduleNotFound _ | .launchFailed ..
  | .device _ => true
  | _ => false

/-- The check fails only with errors that are fair. -/
def Refuses {α : Type} (fair : HostError → Prop) (check : Except HostError α) : Prop :=
  ∀ error, check = .error error → fair error

namespace Refuses

variable {α β : Type} {fair wider : HostError → Prop} {check : Except HostError α}
  {next : α → Except HostError β}

theorem ok (value : α) : Refuses fair (.ok value : Except HostError α) := nofun

theorem of_error {error : HostError} (holds : fair error) :
    Refuses fair (.error error : Except HostError α) := by
  rintro _ ⟨⟩
  exact holds

theorem imp (implies : ∀ error, fair error → wider error) (refuses : Refuses fair check) :
    Refuses wider check :=
  fun error fails => implies error (refuses error fails)

theorem bind (first : Refuses fair check)
    (rest : ∀ value, check = .ok value → Refuses fair (next value)) :
    Refuses fair (check >>= next) := by
  cases outcome : check with
  | ok value => exact rest value outcome
  | error error => exact of_error (first error outcome)

theorem discard (first : Refuses fair check) : Refuses fair (discard check) := by
  cases outcome : check with
  | ok value => exact ok _
  | error error => exact of_error (first error outcome)

theorem refuse {condition : Prop} [Decidable condition] {error : HostError}
    {next : PUnit → Except HostError β} (holds : fair error) (rest : Refuses fair (next ⟨⟩)) :
    Refuses fair
      (if condition then (throw error : Except HostError PUnit) >>= next else next ⟨⟩) := by
  split
  · exact of_error holds
  · exact rest

/-- A refusal at the end of a check. -/
theorem refuse_last {condition : Prop} [Decidable condition] {error : HostError}
    (holds : fair error) :
    Refuses fair (if condition then (throw error : Except HostError PUnit) else pure ⟨⟩) := by
  split
  · exact of_error holds
  · exact ok _

/-- A handle is refused where it is not live. -/
theorem checked {kind : ObjectKind} {arena : Arena kind α} {handle : Handle kind}
    (holds : arena.contains handle = false → fair (.invalidHandle kind)) :
    Refuses fair (arena.checked handle) := by
  unfold Arena.checked
  cases found : arena.get? handle with
  | some object => exact ok _
  | none => exact of_error (holds (by simp [Arena.contains, found]))

end Refuses

/-! ### Checks that look nothing up -/

theorem WaitList.check_refuses (waits : WaitList) :
    Refuses (fun error => error.looksUp = false) waits.check := by
  unfold WaitList.check
  exact .refuse rfl (.refuse rfl (.refuse_last rfl))

theorem Geometry.ofRange_refuses (range : LaunchRange) :
    Refuses (fun error => error.looksUp = false) (Geometry.ofRange range) := by
  have globals_refuses : Refuses (fun error => error.looksUp = false) (Geometry.globals range) := by
    unfold Geometry.globals
    repeat' split
    all_goals first | exact .ok _ | exact .of_error rfl
  have locals_refuses : ∀ sizes,
      Refuses (fun error => error.looksUp = false) (Geometry.locals range sizes) := by
    intro sizes
    unfold Geometry.locals
    repeat' split
    all_goals first | exact .ok _ | exact .of_error rfl
  unfold Geometry.ofRange
  split
  · exact .of_error rfl
  · refine globals_refuses.bind fun sizes _ => ?_
    split
    · exact (locals_refuses sizes).bind fun _ _ => .ok _
    · exact .of_error rfl

theorem Binding.bindArgument_refuses (binding : Binding) (index : Nat) (parameter : Parameter)
    (argument : Option Bytes) :
    Refuses (fun error => error.looksUp = false)
      (binding.bindArgument index parameter argument) := by
  unfold Binding.bindArgument
  repeat' split
  all_goals first | exact .ok _ | exact .of_error rfl

theorem Binding.bindArguments_refuses (binding : Binding) (index : Nat)
    (parameters : List Parameter) (arguments : List (Option Bytes)) :
    Refuses (fun error => error.looksUp = false)
      (binding.bindArguments index parameters arguments) := by
  induction parameters generalizing index arguments with
  | nil => exact .ok _
  | cons parameter rest ih =>
    unfold Binding.bindArguments
    exact (binding.bindArgument_refuses _ _ _).bind fun _ _ => (ih _ _).bind fun _ _ => .ok _

theorem Binding.block_refuses (binding : Binding) (signature : KernelSignature) (kernel : Kernel) :
    Refuses (fun error => error.looksUp = false) (binding.block signature kernel) := by
  unfold Binding.block
  refine .refuse rfl ?_
  simp only
  split
  · exact .of_error rfl
  · exact (binding.bindArguments_refuses _ _ _).bind fun _ _ => .ok _

theorem BufferRequest.check_refuses (request : BufferRequest) :
    Refuses (fun error => error.looksUp = false) request.check := by
  unfold BufferRequest.check
  refine .refuse rfl (.refuse rfl (.refuse rfl (.refuse rfl ?_)))
  unfold BufferRequest.initial
  repeat' split
  all_goals first | exact .ok _ | exact .of_error rfl

theorem ModuleTable.register_refuses (table : ModuleTable) (name source : String) :
    Refuses (fun error => error.looksUp = false) (table.register name source) := by
  unfold ModuleTable.register
  repeat' split
  all_goals first | exact .ok _ | exact .of_error rfl

/-! ### Checks of launches -/

/-- A launch is checked for its queue, its kernel and what it is given by itself. -/
theorem Host.checkLaunch_refuses {δ : Type} [DeviceDriver δ] {host : Host δ}
    {fair : HostError → Prop} {queue : QueueHandle} {kernel : KernelHandle} (range : LaunchRange)
    (waits : WaitList) (own : ∀ error, error.looksUp = false → fair error)
    (queued : host.registry.queues.contains queue = false → fair (.invalidHandle .queue))
    (known : host.registry.kernels.contains kernel = false → fair (.invalidHandle .kernel)) :
    Refuses fair (checkLaunch queue kernel range waits host) := by
  refine (Refuses.checked queued).bind fun _ _ => (Refuses.checked known).bind fun _ _ => ?_
  refine .refuse (own _ rfl) (.refuse (own _ rfl) ?_)
  exact ((Geometry.ofRange_refuses range).imp own).bind fun _ _ =>
    (waits.check_refuses.imp own).bind fun _ _ => .ok _

end ComputeHost
