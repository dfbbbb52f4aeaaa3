/-
**The table of modules and the devices agree.**

That a module is on a device is noted twice, in the table of the host and by the device. After
every run the two say the same, and the device holds the module that is registered: binding a name
never leaves a device with a text that was registered under it earlier.

* `InStep` — what the table and a device agree on.
* `loadOn_binds` — binding a registered module.
* `Run.modules_in_step` — agreement after every run, through unregistering and registering again.
-/

import ComputeHost.Proofs.Host.Run

namespace ComputeHost.Host

open ComputeHost.Action

variable {host before after : Host SimulatedDevice} {history : List Exchange} {name : String}
  {handle : DeviceHandle} {device : SimulatedDevice}

/-! ### Registered modules were read -/

/-- Every registered module was read from its text, under its name. -/
def WellRead (host : Host SimulatedDevice) : Prop :=
  ∀ name entry, host.modules.find? name = some entry →
    KernelModule.parse name entry.module.source = .ok entry.module

theorem WellRead.of_eq (read : before.WellRead) (modules : after.modules = before.modules) :
    after.WellRead := by
  unfold WellRead
  rw [modules]
  exact read

/-- What belongs to one name may change, if that is well read. -/
theorem WellRead.relinked (read : before.WellRead) (relinked : Relinked name before after)
    (here : ∀ entry, after.modules.find? name = some entry →
      KernelModule.parse name entry.module.source = .ok entry.module) : after.WellRead := by
  intro other entry found
  by_cases same : other = name
  · subst same
    exact here entry found
  · rw [ModuleTable.find?_of_remove_eq relinked.others same] at found
    exact read other entry found

theorem parse_own_source {source : String} {module : KernelModule}
    (read : KernelModule.parse name source = .ok module) :
    KernelModule.parse name module.source = .ok module := by
  rw [KernelModule.parse_source read]
  exact read

theorem Transition.wellRead {call : Call} {result : Except HostError Answer}
    (transition : Transition before call result after) (read : before.WellRead) :
    after.WellRead := by
  cases transition with
  | quiet _ calm => exact read.of_eq calm.modules
  | failed calm => exact read.of_eq calm.modules
  | listed _ => exact read
  | contextMade _ _ _ => exact read
  | queueMade _ _ calm settled => exact read.of_eq (settled.modules.trans calm.modules)
  | programMade settled => exact read.of_eq settled.modules
  | kernelMade _ settled => exact read.of_eq settled.modules
  | bufferMade _ _ _ _ across _ _ settled =>
    obtain ⟨_, rfl⟩ := across.rest
    exact read.of_eq settled.modules
  | written _ _ _ across _ =>
    obtain ⟨_, rfl⟩ := across.rest
    exact read
  | @registered name source module new parsed =>
    have named := KernelModule.parse_name parsed
    refine read.relinked (.enroll before module) fun entry found => ?_
    rw [find?_enrolled (named ▸ new)] at found
    cases found
    rw [named]
    exact parse_own_source parsed
  | @unregistered name entry middle _ stripped =>
    refine read.relinked stripped.relinked fun entry found => ?_
    obtain ⟨member, same⟩ := ModuleTable.mem_of_find? found
    exact absurd same (ModuleTable.mem_remove.mp member).2
  | rebuilt _ _ => exact read
  | @built program devices options notify entry targets module middle _ _ _ _ parsed relinked _
      grown =>
    have kept : middle.WellRead := by
      refine read.relinked relinked fun entry found => ?_
      obtain ⟨later, there, same, _⟩ := grown
      rw [there] at found
      cases found
      rw [same]
      exact parse_own_source parsed
    exact kept
  | idle _ => exact read
  | stranded _ strands =>
    obtain ⟨_, rfl⟩ := strands.across.rest
    exact read
  | migrated _ done =>
    obtain ⟨_, rfl⟩ := done.across.rest
    exact read

theorem Run.wellRead (run : Run history host) : host.WellRead := by
  induction run with
  | start settings devices => exact fun _ _ found => absurd found.symm (Option.some_ne_none _)
  | call run call read => exact (step_transition run.regular call).wellRead read
  | turn _ position switch read =>
    exact read.of_eq (adjust_calm _ position fun device => device.alike_turn switch).modules

/-! ### Agreement with one device -/

/-- The table and a device agree. -/
structure InStep (host : Host SimulatedDevice) (handle : DeviceHandle)
    (device : SimulatedDevice) : Prop where
  /-- The device holds a name exactly if the table has it as loaded there. -/
  held : ∀ name, (device.loaded? name).isSome ↔
    ∃ entry, host.modules.find? name = some entry ∧ handle ∈ entry.loadedOn
  /-- What the device holds under a name is what is registered under it. -/
  current : ∀ name loaded, device.loaded? name = some loaded →
    host.modules.module? name = some loaded.module
  /-- Every global variable of it has live storage of its size. -/
  stored : ∀ name loaded, device.loaded? name = some loaded →
    ∀ global ∈ loaded.module.globals, ∃ address,
      device.globalAllocation? name global.name = some ⟨address, global.size, .global⟩
  /-- No two global variables share their storage. -/
  apart : ∀ name symbol other second one two,
    device.globalAllocation? name symbol = some one →
    device.globalAllocation? other second = some two →
    one.address = two.address → name = other ∧ symbol = second

/-- What a device holds under a name is registered under it and marked there. -/
theorem Linked.registered_of_loaded? (linked : host.Linked)
    (found : host.backend? handle = some device) {loaded : LoadedModule}
    (held : device.loaded? name = some loaded) :
    ∃ entry, host.modules.find? name = some entry ∧ entry.module = loaded.module ∧
      handle ∈ entry.loadedOn := by
  have member := List.mem_of_find?_eq_some held
  have named : loaded.module.name = name := by simpa using List.find?_some held
  obtain ⟨entry, listed, same, marked⟩ := (linked.has_iff found).mpr ⟨loaded, member, rfl⟩
  refine ⟨entry, linked.agrees.named.find?_eq_some_iff.mpr ⟨listed, ?_⟩, same, marked⟩
  rw [same, named]

theorem Linked.inStep (linked : host.Linked) (read : host.WellRead)
    (found : host.backend? handle = some device) : host.InStep handle device := by
  have sound := linked.sound handle device found
  refine ⟨fun name => ⟨fun holds => ?_, ?_⟩, fun name loaded held => ?_,
    fun name loaded held global member => ?_, fun _ _ _ _ _ _ first last same =>
      sound.orderly.globals_apart first last same⟩
  · obtain ⟨loaded, held⟩ := Option.isSome_iff_exists.mp holds
    obtain ⟨entry, registered, _, marked⟩ := linked.registered_of_loaded? found held
    exact ⟨entry, registered, marked⟩
  · rintro ⟨entry, registered, marked⟩
    obtain ⟨one, loaded, there, held, _⟩ := linked.loaded?_eq_some registered marked
    obtain rfl := Option.some.inj (found.symm.trans there)
    rw [held]
    rfl
  · obtain ⟨entry, registered, same, _⟩ := linked.registered_of_loaded? found held
    unfold ModuleTable.module?
    rw [registered, Option.map_some, same]
  · obtain ⟨entry, registered, same, _⟩ := linked.registered_of_loaded? found held
    have parsed := read name entry registered
    rw [same] at parsed
    exact sound.globalAllocation?_eq held (KernelModule.parse_globals parsed).1 member

/-! ### Binding -/

/-- Binding the name gets the module onto the device. It fails only if the memory of the device runs
out, and then the device holds nothing under the name. -/
def Binds (host : Host SimulatedDevice) (name : String) (handle : DeviceHandle)
    (module : KernelModule) : Prop :=
  (∃ after device loaded, loadOn name handle host = .ok () after ∧
    after.backend? handle = some device ∧ device.loaded? name = some loaded ∧
    loaded.module = module) ∨
  ∃ requested available after device,
    loadOn name handle host = .error (.device (.outOfMemory requested available)) after ∧
    after.backend? handle = some device ∧ device.loaded? name = none

/-- **Binding a registered module on a live device.** -/
theorem loadOn_binds (linked : host.Linked) (read : host.WellRead)
    (found : host.backend? handle = some device) {entry : ModuleEntry}
    (registered : host.modules.find? name = some entry) :
    host.Binds name handle entry.module := by
  have fits := (KernelModule.parse_globals (read name entry registered)).2
  rcases loadOn_run linked registered handle with
    ⟨error, after, failed, refusal⟩ | ⟨after, done, _, linked', ⟨later, found', same, grown⟩, _, _⟩
  · right
    cases refusal with
    | dead absent =>
      rw [found] at absent
      cases absent
    | @refused one other _ here new refused short =>
      obtain rfl := Option.some.inj (found.symm.trans here)
      obtain ⟨requested, available, rfl⟩ := short fits
      refine ⟨requested, available, _, other, failed, ?_, ?_⟩
      · rw [backend?_setBackend, if_pos rfl, found]
        rfl
      · rw [(ModuleTable.mem_of_find? registered).2] at new
        unfold SimulatedDevice.loaded? at new ⊢
        rw [refused.modules]
        exact new
  · left
    have marked := grown handle (List.mem_append_right _ (List.mem_singleton_self _))
    obtain ⟨other, loaded, there, held, whole⟩ := linked'.loaded?_eq_some found' marked
    exact ⟨after, other, loaded, done, there, held, whole.trans same⟩

/-! ### After every run -/

/-- Unregistering a registered module gives nothing, and no device holds it afterwards. -/
theorem step_unregisterModule (regular : host.Regular) {entry : ModuleEntry}
    (registered : host.modules.find? name = some entry) :
    ∃ removed, step (.unregisterModule name) host = (.ok .nothing, removed) ∧
      removed.modules.find? name = none ∧
      (∀ handle, (removed.backend? handle).isSome = (host.backend? handle).isSome) ∧
      ∀ handle device, removed.backend? handle = some device → device.loaded? name = none := by
  obtain ⟨middle, stripped, done⟩ :=
    unregisterModule_run regular.packed.devices regular.sound registered
  refine ⟨{ middle with modules := host.modules.remove name }, step_of_ok (bind_of_ok done), ?_,
    stripped.across.each.isSome_eq, stripped.gone⟩
  exact ModuleTable.find?_eq_none_iff.mpr fun entry member => (ModuleTable.mem_remove.mp member).2

/-- Registering a text that can be read, under a name that is free. -/
theorem step_registerModule {source : String} {module : KernelModule}
    (new : host.modules.find? name = none)
    (parsed : KernelModule.parse name source = .ok module) :
    step (.registerModule name source) host = (.ok .nothing, host.enrolled module) := by
  have registers : host.modules.register name source =
      .ok ⟨host.modules.entries ++ [⟨module, []⟩]⟩ := by
    unfold ModuleTable.register
    rw [new]
    simp [parsed]
  have done : registerModule name source host = .ok () (host.enrolled module) :=
    bind_of_ok (check_of_ok registers)
  exact step_of_ok (bind_of_ok done)

/-- **The table of modules and the devices agree after every run.** A registered module can be bound
on every live device unless its memory runs out. It can always be unregistered; then no device holds
it, and another text that is registered under its name is the one that binding loads. -/
theorem Run.modules_in_step (run : Run history host) :
    (∀ handle device, host.backend? handle = some device → host.InStep handle device) ∧
    ∀ name entry, host.modules.find? name = some entry →
      (∀ handle, (host.backend? handle).isSome → host.Binds name handle entry.module) ∧
      ∃ removed, step (.unregisterModule name) host = (.ok .nothing, removed) ∧
        (∀ handle device, removed.backend? handle = some device → device.loaded? name = none) ∧
        ∀ source module, KernelModule.parse name source = .ok module →
          ∃ renewed, step (.registerModule name source) removed = (.ok .nothing, renewed) ∧
            ∀ handle, (host.backend? handle).isSome → renewed.Binds name handle module := by
  have linked := run.regular.linked
  refine ⟨fun handle device found => linked.inStep run.wellRead found,
    fun name entry registered => ⟨fun handle live => ?_, ?_⟩⟩
  · obtain ⟨device, found⟩ := Option.isSome_iff_exists.mp live
    exact loadOn_binds linked run.wellRead found registered
  obtain ⟨removed, unregistered, new, same, gone⟩ := step_unregisterModule run.regular registered
  refine ⟨removed, unregistered, gone, fun source module parsed => ?_⟩
  have joined := step_registerModule new parsed
  refine ⟨removed.enrolled module, joined, fun handle live => ?_⟩
  -- the host that has the new text was reached by two more calls
  have later := (run.call (.unregisterModule name)).call (.registerModule name source)
  rw [unregistered, joined] at later
  have still : ((removed.enrolled module).backend? handle).isSome := by
    rw [← same handle] at live
    exact live
  obtain ⟨device, found⟩ := Option.isSome_iff_exists.mp still
  have named := KernelModule.parse_name parsed
  rw [← named] at new
  have enrolled := find?_enrolled new
  rw [named] at enrolled
  exact loadOn_binds later.regular.linked later.wellRead found enrolled

/-- A program with a global variable is built for two devices. -/
def sharing : List Call :=
  [.platformIds, .createContext [⟨0, 1⟩, ⟨1, 1⟩] false,
    .createProgram ⟨0, 1⟩ ["\x7b\"globals\":[\x7b\"name\":\"g\",\"size\":4\x7d]\x7d"],
    .buildProgram ⟨0, 1⟩ none none false]

/-- The module of a program that was just built is on the first device with its storage, and can be
unregistered. -/
theorem modules_in_step_sharing :
    ∃ device loaded removed, (run sharing (twin 64 64)).2.backend? ⟨0, 1⟩ = some device ∧
      device.loaded? "program0" = some loaded ∧
      (∀ global ∈ loaded.module.globals, ∃ address,
        device.globalAllocation? "program0" global.name = some ⟨address, global.size, .global⟩) ∧
      step (.unregisterModule "program0") (run sharing (twin 64 64)).2 =
        (.ok .nothing, removed) := by
  have registered : ((run sharing (twin 64 64)).2.modules.find? "program0").isSome = true := by
    decide +kernel
  have holds : (((run sharing (twin 64 64)).2.backend? ⟨0, 1⟩).bind fun device =>
      device.loaded? "program0").isSome = true := by decide +kernel
  obtain ⟨entry, registered⟩ := Option.isSome_iff_exists.mp registered
  obtain ⟨loaded, holds⟩ := Option.isSome_iff_exists.mp holds
  obtain ⟨device, found, held⟩ := Option.bind_eq_some_iff.mp holds
  obtain ⟨agree, renew⟩ := Run.modules_in_step (run_twin 64 64 sharing)
  obtain ⟨_, removed, unregistered, _⟩ := renew "program0" entry registered
  exact ⟨device, loaded, removed, found, held,
    (agree ⟨0, 1⟩ device found).stored "program0" loaded held, unregistered⟩

end ComputeHost.Host
