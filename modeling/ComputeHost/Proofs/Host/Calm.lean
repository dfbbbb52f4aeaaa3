/-
**What a host keeps through a calm call.**

Most calls look at the host, refuse, or note something that no other call depends on: collectors,
arguments, records of the devices. `Calm` says what such a call leaves as it was: the data and the
modules of every device, the buffers and queues, and what contexts, programs and kernels are.
-/

import ComputeHost.Proofs.Host.Backend

namespace ComputeHost

namespace SimulatedDevice

variable {device middle after : SimulatedDevice}

/-- The data and the modules are as they were. -/
structure Alike (device after : SimulatedDevice) : Prop where
  sound : device.Sound → after.Sound
  modules : after.modules = device.modules
  data : ∀ address, after.heap.data? address = device.heap.data? address

theorem Alike.refl (device : SimulatedDevice) : device.Alike device := ⟨id, rfl, fun _ => rfl⟩

theorem Alike.trans (first : device.Alike middle) (second : middle.Alike after) :
    device.Alike after :=
  ⟨second.sound ∘ first.sound, second.modules.trans first.modules,
    fun address => (second.data address).trans (first.data address)⟩

theorem Alike.of_eq (modules : after.modules = device.modules) (heap : after.heap = device.heap) :
    device.Alike after :=
  ⟨fun sound => sound.of_eq modules heap, modules, fun address => by rw [heap]⟩

/-- Storage of global variables may be added. -/
theorem Alike.of_extended (sound : device.Sound) (modules : after.modules = device.modules)
    (extended : device.heap.Extended after.heap) : device.Alike after :=
  ⟨fun _ => sound.of_heap modules extended.ordered (extended.keepsGlobals sound.ordered), modules,
    extended.data?_eq sound.ordered⟩

/-- The device holds what it held: the same modules, and the same memory down to the byte. -/
structure Untouched (device after : SimulatedDevice) : Prop where
  modules : after.modules = device.modules
  contents : after.heap.contents = device.heap.contents
  used : after.heap.used = device.heap.used

theorem Untouched.of_content (ordered : device.heap.Ordered) (ordered' : after.heap.Ordered)
    (modules : after.modules = device.modules)
    (same : ∀ address, after.heap.content? address = device.heap.content? address) :
    device.Untouched after :=
  ⟨modules, ordered.contents_congr ordered' same, ordered.used_congr ordered' same⟩

/-- A device without modules and data. -/
structure Blank (device : SimulatedDevice) : Prop where
  sound : device.Sound
  modules : device.modules = []
  data : ∀ address, device.heap.data? address = none

theorem blank_new (number : Nat) (properties : DeviceProperties) :
    (new number properties).Blank :=
  ⟨sound_new number properties, rfl, fun _ => rfl⟩

theorem Blank.alike (blank : device.Blank) (alike : device.Alike after) : after.Blank :=
  ⟨alike.sound blank.sound, alike.modules.trans blank.modules,
    fun address => (alike.data address).trans (blank.data address)⟩

theorem alike_visited (device : SimulatedDevice) : device.Alike device.visited := .of_eq rfl rfl

theorem alike_turn (device : SimulatedDevice) (switch : Switch) :
    device.Alike (device.turn switch) := .of_eq rfl rfl

end SimulatedDevice

/-- Nothing was ever taken out of an arena of the registry. -/
structure Registry.Packed {δ : Type} (registry : Registry δ) : Prop where
  platforms : registry.platforms.Packed
  devices : registry.devices.Packed
  contexts : registry.contexts.Packed
  programs : registry.programs.Packed
  kernels : registry.kernels.Packed
  buffers : registry.buffers.Packed
  queues : registry.queues.Packed

theorem Registry.packed_empty {δ : Type} : ({} : Registry δ).Packed :=
  ⟨.empty, .empty, .empty, .empty, .empty, .empty, .empty⟩

namespace Host

variable {host before middle after : Host SimulatedDevice} {handle : DeviceHandle}
  {address : Address}

/-! ### What the devices hold -/

/-- What is live at an address of a device. -/
def content? (host : Host SimulatedDevice) (handle : DeviceHandle) (address : Address) :
    Option Content :=
  (host.backend? handle).bind fun device => device.heap.content? address

/-- The data at an address of a device. -/
def data? (host : Host SimulatedDevice) (handle : DeviceHandle) (address : Address) :
    Option Content :=
  (host.backend? handle).bind fun device => device.heap.data? address

/-- The modules that a device holds. -/
def modulesOn (host : Host SimulatedDevice) (handle : DeviceHandle) : Option (List KernelModule) :=
  (host.backend? handle).map fun device => device.modules.map LoadedModule.module

theorem content?_of_backend? {device : SimulatedDevice}
    (found : host.backend? handle = some device) :
    host.content? handle address = device.heap.content? address := by
  unfold content?
  rw [found]
  rfl

theorem data?_of_backend? {device : SimulatedDevice} (found : host.backend? handle = some device) :
    host.data? handle address = device.heap.data? address := by
  unfold data?
  rw [found]
  rfl

theorem data?_eq_some_iff {content : Content} :
    host.data? handle address = some content ↔
      host.content? handle address = some content ∧ content.residency ≠ .global := by
  unfold data? content?
  cases host.backend? handle with
  | none => simp
  | some device => exact Heap.data?_eq_some_iff

/-- There is data on live devices only. -/
theorem live_of_data? {content : Content} (holds : host.data? handle address = some content) :
    (host.backend? handle).isSome := by
  unfold data? at holds
  obtain ⟨device, found, _⟩ := Option.bind_eq_some_iff.mp holds
  rw [found]
  rfl

theorem modulesOn_isSome :
    (host.modulesOn handle).isSome = (host.backend? handle).isSome := by
  unfold modulesOn
  rw [Option.isSome_map]

theorem Each.data?_eq (each : Each SimulatedDevice.Alike before after)
    (handle : DeviceHandle) (address : Address) :
    after.data? handle address = before.data? handle address := by
  unfold data?
  rcases each handle with ⟨here, there⟩ | ⟨one, other, here, there, alike⟩
  · rw [here, there]
  · rw [here, there]
    exact alike.data address

theorem Each.modulesOn_eq (each : Each SimulatedDevice.Alike before after)
    (handle : DeviceHandle) : after.modulesOn handle = before.modulesOn handle := by
  unfold modulesOn
  rcases each handle with ⟨here, there⟩ | ⟨one, other, here, there, alike⟩
  · rw [here, there]
  · rw [here, there, Option.map_some, Option.map_some, alike.modules]

/-! ### Calm calls -/

/-- What a kernel is, without its arguments. -/
def kernelFace (kernel : Kernel) : ProgramHandle × ContextHandle × String :=
  (kernel.program, kernel.context, kernel.name)

/-- What a program is, without the list of its kernels. -/
def programFace (program : Program) : ContextHandle × String × Option (List Build) :=
  (program.context, program.source, program.builds)

/-- Nothing changed that another call depends on. -/
structure Calm (before after : Host SimulatedDevice) : Prop where
  packed : before.registry.Packed → after.registry.Packed
  each : Each SimulatedDevice.Alike before after
  pending : ∀ device ∈ after.pending, ∃ one ∈ before.pending, one.Alike device
  platforms : after.registry.platforms = before.registry.platforms
  contexts : ∀ context, (after.registry.contexts.get? context).map Context.devices =
    (before.registry.contexts.get? context).map Context.devices
  programs : ∀ program, (after.registry.programs.get? program).map programFace =
    (before.registry.programs.get? program).map programFace
  kernels : ∀ kernel, (after.registry.kernels.get? kernel).map kernelFace =
    (before.registry.kernels.get? kernel).map kernelFace
  buffers : after.registry.buffers = before.registry.buffers
  queues : after.registry.queues = before.registry.queues
  modules : after.modules = before.modules

theorem Calm.refl (host : Host SimulatedDevice) : host.Calm host :=
  ⟨id, .refl SimulatedDevice.Alike.refl host, fun device member => ⟨device, member, .refl device⟩,
    rfl, fun _ => rfl, fun _ => rfl, fun _ => rfl, rfl, rfl, rfl⟩

theorem Calm.trans (first : before.Calm middle) (second : middle.Calm after) :
    before.Calm after := by
  refine ⟨second.packed ∘ first.packed,
    first.each.trans (fun _ _ _ => SimulatedDevice.Alike.trans) second.each,
    fun device member => ?_, second.platforms.trans first.platforms,
    fun context => (second.contexts context).trans (first.contexts context),
    fun program => (second.programs program).trans (first.programs program),
    fun kernel => (second.kernels kernel).trans (first.kernels kernel),
    second.buffers.trans first.buffers, second.queues.trans first.queues,
    second.modules.trans first.modules⟩
  obtain ⟨two, among, step'⟩ := second.pending device member
  obtain ⟨one, among, step⟩ := first.pending two among
  exact ⟨one, among, step.trans step'⟩

theorem Calm.of_across (across : Across SimulatedDevice.Alike before after) :
    before.Calm after := by
  obtain ⟨devices, same⟩ := across.rest
  refine ⟨fun packed => ?_, across.each, fun device member => ?_, ?_, ?_, ?_, ?_, ?_, ?_, ?_⟩
  · have kept := across.packed packed.devices
    subst same
    exact { packed with devices := kept }
  · subst same
    exact ⟨device, member, .refl device⟩
  all_goals
    subst same
    intros
    rfl

theorem Calm.isEnumerated_eq (calm : before.Calm after) :
    after.isEnumerated = before.isEnumerated := by
  unfold isEnumerated
  rw [calm.platforms]

end Host

end ComputeHost
