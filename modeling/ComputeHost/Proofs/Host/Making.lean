/-
**Making objects.**

A new object goes into the arena of its kind and is listed in its context or program, which is calm.
The calls that make objects check what they are given, and fail calmly.

* `createContext_run`, `createQueue_run`, `createProgram_run`, `createKernel_run` — the calls.
* `Regular.withContext` and its kin — a host with one more object is in good order.
-/

import ComputeHost.Proofs.Host.Launching

namespace ComputeHost

namespace SimulatedDevice

/-- A new stream leaves data and modules as they were, and so does a refusal. -/
theorem alike_createStream (device : SimulatedDevice) :
    device.Alike (Action.final (DeviceDriver.selected DeviceDriver.createStream device)) := by
  have made := createStream_of_selected device.selected_select
  split at made
  · have ran : DeviceDriver.selected DeviceDriver.createStream device = _ :=
      DeviceDriver.selected_of_error made
    rw [ran]
    exact .of_eq rfl rfl
  · have ran : DeviceDriver.selected DeviceDriver.createStream device = _ :=
      DeviceDriver.selected_of_ok made
    rw [ran]
    exact .of_eq rfl rfl

end SimulatedDevice

namespace Host

open ComputeHost.Action

variable {host before after : Host SimulatedDevice}

/-! ### One more object -/

/-- The host with one more context. -/
def withContext (host : Host SimulatedDevice) (context : Context) : Host SimulatedDevice :=
  { host with
    registry := { host.registry with contexts := (host.registry.contexts.insert context).2 } }

/-- The host with one more queue. -/
def withQueue (host : Host SimulatedDevice) (queue : Queue) : Host SimulatedDevice :=
  { host with registry := { host.registry with queues := (host.registry.queues.insert queue).2 } }

/-- The host with one more program. -/
def withProgram (host : Host SimulatedDevice) (program : Program) : Host SimulatedDevice :=
  { host with
    registry := { host.registry with programs := (host.registry.programs.insert program).2 } }

/-- The host with one more kernel. -/
def withKernel (host : Host SimulatedDevice) (kernel : Kernel) : Host SimulatedDevice :=
  { host with
    registry := { host.registry with kernels := (host.registry.kernels.insert kernel).2 } }

/-- The host with one more buffer. -/
def withBuffer (host : Host SimulatedDevice) (buffer : Buffer) : Host SimulatedDevice :=
  { host with
    registry := { host.registry with buffers := (host.registry.buffers.insert buffer).2 } }

/-- A change of a program that leaves what it is. -/
theorem calm_changeProgram (host : Host SimulatedDevice) (handle : ProgramHandle)
    {change : Program → Program} (face : ∀ program, programFace (change program) =
      programFace program) :
    host.Calm { host with
      registry :=
        { host.registry with programs := host.registry.programs.modify handle change } } := by
  refine { Calm.refl host with
    packed := fun packed => { packed with programs := packed.programs.modify _ _ }
    programs := fun program => ?_ }
  simp only [Arena.get?_modify]
  split
  · rename_i here
    rw [here, Option.map_map]
    exact congrArg (Option.map · _) (funext face)
  · rfl

theorem calm_addQueue (host : Host SimulatedDevice) (queue : Queue) :
    (host.withQueue queue).Calm { host with registry := (host.registry.addQueue queue).2 } :=
  calm_changeContext (host.withQueue queue) queue.context fun _ => rfl

theorem calm_addProgram (host : Host SimulatedDevice) (program : Program) :
    (host.withProgram program).Calm
      { host with registry := (host.registry.addProgram program).2 } :=
  calm_changeContext (host.withProgram program) program.context fun _ => rfl

theorem calm_addKernel (host : Host SimulatedDevice) (kernel : Kernel) :
    (host.withKernel kernel).Calm { host with registry := (host.registry.addKernel kernel).2 } :=
  calm_changeProgram (host.withKernel kernel) kernel.program fun _ => rfl

theorem calm_addBuffer (host : Host SimulatedDevice) (buffer : Buffer) :
    (host.withBuffer buffer).Calm { host with registry := (host.registry.addBuffer buffer).2 } :=
  calm_changeContext (host.withBuffer buffer) buffer.context fun _ => rfl

/-! ### Good order with one more object -/

theorem Regular.withContext (regular : host.Regular) {context : Context}
    (nonempty : context.devices ≠ []) (nodup : context.devices.Nodup)
    (live : ∀ device ∈ context.devices, (host.backend? device).isSome) :
    (host.withContext context).Regular := by
  refine { regular with
    packed := { regular.packed with contexts := regular.packed.contexts.insert context }
    agrees := { regular.agrees with }
    contexts := fun handle entry found => ?_
    queues := fun handle queue found => ?_ }
  · unfold Host.withContext at found
    simp only [regular.packed.contexts.get?_insert, Option.or_eq_some_iff] at found
    rcases found with old | ⟨_, new⟩
    · exact regular.contexts handle entry old
    · split at new
      · cases new
        exact ⟨nonempty, nodup, live⟩
      · cases new
  · obtain ⟨entry, there, member⟩ := regular.queues handle queue found
    refine ⟨entry, ?_, member⟩
    unfold Host.withContext
    rw [regular.packed.contexts.get?_insert, there]
    rfl

theorem Regular.withQueue (regular : host.Regular) {queue : Queue} {context : Context}
    (there : host.registry.contexts.get? queue.context = some context)
    (member : queue.device ∈ context.devices) : (host.withQueue queue).Regular := by
  refine { regular with
    packed := { regular.packed with queues := regular.packed.queues.insert queue }
    agrees := { regular.agrees with }
    queues := fun handle entry found => ?_ }
  unfold Host.withQueue at found
  simp only [regular.packed.queues.get?_insert, Option.or_eq_some_iff] at found
  rcases found with old | ⟨_, new⟩
  · exact regular.queues handle entry old
  · split at new
    · cases new
      exact ⟨context, there, member⟩
    · cases new

theorem Regular.withProgram (regular : host.Regular) (program : Program) :
    (host.withProgram program).Regular :=
  { regular with
    packed := { regular.packed with programs := regular.packed.programs.insert program }
    agrees := { regular.agrees with } }

theorem Regular.withKernel (regular : host.Regular) (kernel : Kernel) :
    (host.withKernel kernel).Regular :=
  { regular with
    packed := { regular.packed with kernels := regular.packed.kernels.insert kernel }
    agrees := { regular.agrees with } }

theorem Regular.withBuffer (regular : host.Regular) (buffer : Buffer) :
    (host.withBuffer buffer).Regular :=
  { regular with
    packed := { regular.packed with buffers := regular.packed.buffers.insert buffer }
    agrees := { regular.agrees with } }

/-! ### The calls -/

theorem checkDistinct_eq_ok {δ : Type} {host : Host δ} {seen devices : List DeviceHandle}
    (passes : host.checkDistinct seen devices = .ok ()) :
    devices.Nodup ∧ (∀ device ∈ devices, device ∉ seen) ∧
      ∀ device ∈ devices, (host.backend? device).isSome := by
  induction devices generalizing seen with
  | nil => exact ⟨List.nodup_nil, List.forall_mem_nil _, List.forall_mem_nil _⟩
  | cons first rest ih =>
    unfold checkDistinct at passes
    simp only [Action.except_bind_eq_ok_iff, Action.refuse_eq_ok_iff, Action.discard_eq_ok_iff]
      at passes
    obtain ⟨_, ⟨device, live⟩, unseen, passes⟩ := passes
    obtain ⟨nodup, apart, alive⟩ := ih passes
    have found := backend?_of_checked live
    refine ⟨List.nodup_cons.mpr ⟨fun member => ?_, nodup⟩, ?_, ?_⟩
    · exact apart first member List.mem_cons_self
    · rw [List.forall_mem_cons]
      refine ⟨by simpa using unseen, fun other member seen => ?_⟩
      exact apart other member (List.mem_cons_of_mem _ seen)
    · rw [List.forall_mem_cons, found]
      exact ⟨rfl, alive⟩

/-- **Making a context** changes nothing, or adds a context for different live devices. -/
theorem createContext_run (host : Host SimulatedDevice) (devices : List DeviceHandle)
    (notify : Bool) :
    (∃ error, createContext devices notify host = .error error host) ∨
    devices ≠ [] ∧ devices.Nodup ∧ (∀ device ∈ devices, (host.backend? device).isSome) ∧
      createContext devices notify host =
        .ok (host.registry.contexts.insert { devices }).1 (host.withContext { devices }) := by
  unfold createContext
  cases passes : checkContext devices notify host with
  | error error => exact .inl ⟨error, bind_of_error (check_of_error passes)⟩
  | ok done =>
    right
    have checked := passes
    unfold checkContext at checked
    simp only [Action.refuse_eq_ok_iff, Action.except_bind_eq_ok_iff] at checked
    obtain ⟨nonempty, _, distinct, _⟩ := checked
    obtain ⟨nodup, _, live⟩ := checkDistinct_eq_ok distinct
    exact ⟨by simpa using nonempty, nodup, live, bind_of_ok (check_of_ok passes)⟩

/-- **Making a queue** fails calmly, or adds a queue for a device of the context. -/
theorem createQueue_run (host : Host SimulatedDevice) (context : ContextHandle)
    (device : DeviceHandle) (properties : QueueProperties) :
    (∃ error after, createQueue context device properties host = .error error after ∧
      host.Calm after) ∨
    ∃ entry stream middle after, host.registry.contexts.get? context = some entry ∧
      device ∈ entry.devices ∧ host.Calm middle ∧
      (middle.withQueue { context, device, properties, stream }).Calm after ∧
      createQueue context device properties host =
        .ok (middle.registry.queues.insert { context, device, properties, stream }).1 after := by
  unfold createQueue
  cases passes : checkQueue context device properties host with
  | error error =>
    exact .inl ⟨error, host, bind_of_error (check_of_error passes), .refl host⟩
  | ok done =>
    rw [bind_of_ok (check_of_ok passes)]
    unfold checkQueue at passes
    simp only [Action.except_bind_eq_ok_iff, Action.refuse_eq_ok_iff, Action.discard_eq_ok_iff,
      Arena.checked_eq_ok_iff] at passes
    obtain ⟨entry, there, _, ⟨one, live⟩, member, _⟩ := passes
    have found := backend?_of_checked (Arena.checked_eq_ok_iff.mpr live)
    have alike := SimulatedDevice.alike_createStream one.backend
    cases made : DeviceDriver.selected DeviceDriver.createStream one.backend with
    | error cause changed =>
      rw [made] at alike
      left
      exact ⟨_, _, bind_of_error (onDevice_of_error found made),
        .of_across (.setBackend SimulatedDevice.Alike.refl found alike)⟩
    | ok stream changed =>
      rw [made] at alike
      right
      exact ⟨entry, stream, _, _, there, by simpa using member,
        .of_across (.setBackend SimulatedDevice.Alike.refl found alike), calm_addQueue _ _,
        bind_of_ok (onDevice_of_ok found made)⟩

/-- **Making a program** changes nothing, or adds a program that is not yet built. -/
theorem createProgram_run (host : Host SimulatedDevice) (context : ContextHandle)
    (sources : List String) :
    (∃ error, createProgram context sources host = .error error host) ∨
    ∃ after, (host.withProgram { context, source := String.join sources }).Calm after ∧
      createProgram context sources host =
        .ok (host.registry.programs.insert { context, source := String.join sources }).1
          after := by
  unfold createProgram
  rw [discard_check]
  cases found : discard (host.registry.contexts.checked context) with
  | error error => exact .inl ⟨error, bind_of_error (check_of_error found)⟩
  | ok entry =>
    rw [bind_of_ok (check_of_ok found)]
    by_cases empty : sources.all String.isEmpty = true
    · left
      rw [if_pos empty]
      exact ⟨_, bind_of_error rfl⟩
    · right
      rw [if_neg empty]
      exact ⟨_, calm_addProgram _ _, rfl⟩

/-- **Making a kernel** changes nothing, or adds a kernel of a built program. -/
theorem createKernel_run (host : Host SimulatedDevice) (program : ProgramHandle) (name : String) :
    (∃ error, createKernel program name host = .error error host) ∨
    ∃ kernel after, checkKernel program name host = .ok kernel ∧
      (host.withKernel kernel).Calm after ∧
      createKernel program name host = .ok (host.registry.kernels.insert kernel).1 after := by
  unfold createKernel
  cases passes : checkKernel program name host with
  | error error => exact .inl ⟨error, bind_of_error (check_of_error passes)⟩
  | ok kernel =>
    exact .inr ⟨kernel, _, rfl, calm_addKernel _ _, bind_of_ok (check_of_ok passes)⟩

/-! ### Calls that make nothing -/

theorem changeContext_calm (handle : ContextHandle) {change : Context → Context}
    (devices : ∀ context, (change context).devices = context.devices) :
    Within Calm (changeContext handle change : HostAction SimulatedDevice Unit) := by
  unfold changeContext
  rw [discard_check]
  exact within_seq (within_check _) fun _ host => calm_changeContext host handle devices

theorem setArgument_calm (kernel : KernelHandle) (index : Nat) (value : Bytes) :
    Within Calm (setArgument kernel index value : HostAction SimulatedDevice Unit) :=
  within_seq (within_check _) fun _ host => calm_changeKernel host kernel fun _ => rfl

theorem setOptimization_calm (level : OptimizationLevel) :
    Within Calm (setOptimization level : HostAction SimulatedDevice Unit) :=
  fun host => { Calm.refl host with packed := id }

end Host

end ComputeHost
