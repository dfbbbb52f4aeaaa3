/-
**Launches are calm.**

A launch notes its geometry with the kernel, uses up one-shot collectors, and leaves a record and
perhaps diagnostics. It changes neither data nor modules, however it ends.

* `handOver` — a launch up to the point where its request goes to the device.
* `handOver_run` — it is refused before any device is asked, or the device gets the request.
* `enqueueKernel_calm` — every launch is calm.
-/

import ComputeHost.Proofs.Device.Operation
import ComputeHost.Proofs.Host.Refusal
import ComputeHost.Proofs.Host.Regular

namespace ComputeHost

/-- Whether the error comes from a device that was given a launch. -/
def HostError.isFromDevice : HostError → Bool
  | .launchFailed .. | .device _ => true
  | _ => false

theorem HostError.isFromDevice_of_looksUp {error : HostError} (own : error.looksUp = false) :
    error.isFromDevice = false := by
  cases error <;> first | rfl | cases own

namespace SimulatedDevice

variable {request : LaunchRequest} {device : SimulatedDevice}

theorem alike_compositional : Compositional Alike :=
  ⟨.refl, .trans, fun _ _ => .of_eq rfl rfl⟩

/-- A launch leaves notes at most. -/
theorem alike_launch (request : LaunchRequest) (device : SimulatedDevice) :
    device.Alike (launch request device).2 :=
  alike_compositional.launch (fun _ => .of_eq rfl rfl) (fun _ _ => .of_eq rfl rfl) request device

theorem alike_launchSelected (request : LaunchRequest) (device : SimulatedDevice) :
    device.Alike (Host.launchSelected request device).2 :=
  (Alike.of_eq rfl rfl : device.Alike device.select).trans
    ((alike_launch request device.select).trans (.of_eq rfl rfl))

end SimulatedDevice

namespace Host

open ComputeHost.Action

variable {host after : Host SimulatedDevice} {α : Type}

theorem within_check (look : Host SimulatedDevice → Except HostError α) :
    Within Calm (check look) := by
  intro host
  unfold check
  cases look host <;> exact .refl host

theorem within_seq {β : Type} {first : HostAction SimulatedDevice α}
    {rest : α → HostAction SimulatedDevice β} (begins : Within Calm first)
    (goes : ∀ value, Within Calm (rest value)) : Within Calm (first >>= rest) :=
  begins.bind (fun _ _ _ => Calm.trans) goes

/-- A change of a kernel that leaves what it is. -/
theorem calm_changeKernel (host : Host SimulatedDevice) (handle : KernelHandle)
    {change : Kernel → Kernel} (face : ∀ kernel, kernelFace (change kernel) = kernelFace kernel) :
    host.Calm { host with
      registry :=
        { host.registry with kernels := host.registry.kernels.modify handle change } } := by
  refine { Calm.refl host with
    packed := fun packed => { packed with kernels := packed.kernels.modify _ _ }
    kernels := fun kernel => ?_ }
  simp only [Arena.get?_modify]
  split
  · rename_i here
    rw [here, Option.map_map]
    exact congrArg (Option.map · _) (funext face)
  · rfl

/-- A change of a context that leaves its devices. -/
theorem calm_changeContext (host : Host SimulatedDevice) (handle : ContextHandle)
    {change : Context → Context} (devices : ∀ context, (change context).devices = context.devices) :
    host.Calm { host with
      registry :=
        { host.registry with contexts := host.registry.contexts.modify handle change } } := by
  refine { Calm.refl host with
    packed := fun packed => { packed with contexts := packed.contexts.modify _ _ }
    contexts := fun context => ?_ }
  simp only [Arena.get?_modify]
  split
  · rename_i here
    rw [here, Option.map_map]
    exact congrArg (Option.map · _) (funext devices)
  · rfl

/-- Telling collectors changes what was recorded, and nothing else. -/
theorem tellAll_eq (host : Host SimulatedDevice) (signals : List (CollectorId × Signal)) :
    ∃ recorders, host.tellAll signals = { host with recorders } := by
  unfold tellAll
  induction signals generalizing host with
  | nil => exact ⟨host.recorders, rfl⟩
  | cons first rest ih =>
    obtain ⟨recorders, same⟩ := ih (host.tell first.1 first.2)
    exact ⟨recorders, same⟩

theorem execute_calm (handle : DeviceHandle) (request : LaunchRequest) :
    Within Calm (execute handle request : HostAction SimulatedDevice _) := by
  intro host
  unfold execute
  cases found : host.registry.devices.checked handle with
  | error error => exact .refl host
  | ok device =>
    have launched := SimulatedDevice.alike_launchSelected request device.backend
    obtain ⟨recorders, told⟩ := tellAll_eq ({ host with executing := true }.setBackend handle
      (launchSelected request device.backend).2) (launchSelected request device.backend).1.signals
    have across : Across SimulatedDevice.Alike host
        (host.setBackend handle (launchSelected request device.backend).2) :=
      .setBackend SimulatedDevice.Alike.refl (backend?_of_checked found) launched
    refine (Calm.of_across across).trans ?_
    simp only [final, told]
    exact { Calm.refl _ with packed := id }

theorem takeCollectors_calm (context : ContextHandle) :
    Within Calm (takeCollectors context : HostAction SimulatedDevice _) :=
  within_seq (within_check _) fun _ host => calm_changeContext host context fun _ => rfl

theorem dispatch_calm (handle : DeviceHandle) (request : LaunchRequest) :
    Within Calm (dispatch handle request : HostAction SimulatedDevice _) := by
  refine within_seq (execute_calm handle request) fun report host => ?_
  split
  · exact .refl host
  · exact { Calm.refl host with packed := id }
  · exact .refl host

/-- A launch that passes its checks is on a live queue, and its range is accepted. -/
theorem checkLaunch_eq_ok {δ : Type} [DeviceDriver δ] {host : Host δ} {queue : QueueHandle}
    {kernel : KernelHandle} {range : LaunchRange} {waits : WaitList} {line : Queue}
    {geometry : Geometry}
    (passes : checkLaunch queue kernel range waits host = .ok (line, geometry)) :
    host.registry.queues.get? queue = some line ∧ Geometry.ofRange range = .ok geometry := by
  unfold checkLaunch at passes
  simp only [except_bind_eq_ok_iff, refuse_eq_ok_iff, Arena.checked_eq_ok_iff] at passes
  obtain ⟨_, queued, _, _, _, _, _, accepted, _, _, same⟩ := passes
  cases same
  exact ⟨queued, accepted⟩

/-- What a request was made of. -/
theorem launchRequest_eq_ok {line : Queue} {kernel : KernelHandle} {geometry : Geometry}
    {request : LaunchRequest}
    (asked : launchRequest line kernel geometry host = .ok request) :
    ∃ made program build module signature device parameters,
      host.registry.kernels.get? kernel = some made ∧
      host.registry.programs.get? made.program = some program ∧
      program.buildFor? line.device = some build ∧
      host.modules.module? build.module = some module ∧
      module.kernel? made.name = some signature ∧
      host.registry.devices.get? line.device = some device ∧
      (host.binding line.device device.name).block signature made =
        .ok parameters ∧
      request =
        { module := build.module, kernel := made.name, stream := line.stream,
          workGroups := Geometry.words geometry.groups,
          localSize := Geometry.words geometry.localSize, parameters, collectors := [] } := by
  unfold launchRequest at asked
  simp only [except_bind_eq_ok_iff, Arena.checked_eq_ok_iff] at asked
  obtain ⟨made, there, program, owner, module, built, asked⟩ := asked
  split at asked
  · cases asked
  · rename_i signature known
    simp only [except_bind_eq_ok_iff, Arena.checked_eq_ok_iff] at asked
    obtain ⟨device, live, parameters, bound, same⟩ := asked
    unfold launchModule at built
    split at built
    · rename_i found registered
      cases built
      obtain ⟨build, first, registered⟩ := Option.bind_eq_some_iff.mp registered
      obtain ⟨entry, listed, rfl⟩ := Option.map_eq_some_iff.mp registered
      have named := (ModuleTable.mem_of_find? listed).2
      cases same
      rw [named]
      exact ⟨made, program, build, entry.module, signature, device, parameters, there, owner,
        first, registered, known, live, bound, rfl⟩
    · cases built

/-- The module that the program of the kernel was built into for the device of the queue, if it is
registered. -/
def moduleFor? {δ : Type} (queue : QueueHandle) (kernel : KernelHandle) (host : Host δ) :
    Option KernelModule := do
  let line ← host.registry.queues.get? queue
  let made ← host.registry.kernels.get? kernel
  let program ← host.registry.programs.get? made.program
  let build ← program.buildFor? line.device
  host.modules.module? build.module

/-- The kernel as that module declares it. -/
def declared? {δ : Type} (queue : QueueHandle) (kernel : KernelHandle) (host : Host δ) :
    Option KernelSignature := do
  let made ← host.registry.kernels.get? kernel
  let module ← moduleFor? queue kernel host
  module.kernel? made.name

theorem moduleFor?_eq {δ : Type} {host : Host δ} {queue : QueueHandle} {kernel : KernelHandle}
    {line : Queue} {made : Kernel} {program : Program}
    (queued : host.registry.queues.get? queue = some line)
    (held : host.registry.kernels.get? kernel = some made)
    (owner : host.registry.programs.get? made.program = some program) :
    moduleFor? queue kernel host =
      (program.buildFor? line.device).bind fun build => host.modules.module? build.module := by
  simp only [moduleFor?, queued, held, owner, Option.bind_eq_bind, Option.bind_some]

theorem declared?_eq {δ : Type} {host : Host δ} {queue : QueueHandle} {kernel : KernelHandle}
    {made : Kernel} {module : KernelModule}
    (held : host.registry.kernels.get? kernel = some made)
    (built : moduleFor? queue kernel host = some module) :
    declared? queue kernel host = module.kernel? made.name := by
  simp only [declared?, held, built, Option.bind_eq_bind, Option.bind_some]

/-! ### Launches up to the device -/

/-- A launch up to the point where its request, with its collectors, goes to the device. -/
def handOver {δ : Type} [DeviceDriver δ] (queue : QueueHandle) (kernel : KernelHandle)
    (range : LaunchRange) (waits : WaitList) : HostAction δ (DeviceHandle × LaunchRequest) := do
  let (entry, geometry) ← check (checkLaunch queue kernel range waits)
  changeKernel kernel fun kernel => { kernel with geometry := some geometry }
  let request ← check (launchRequest entry kernel geometry)
  let collectors ← takeCollectors entry.context
  return (entry.device, { request with collectors })

/-- A launch hands its request over, and the device runs it. -/
theorem enqueueKernel_eq {δ : Type} [DeviceDriver δ] (queue : QueueHandle) (kernel : KernelHandle)
    (range : LaunchRange) (waits : WaitList) :
    (enqueueKernel queue kernel range waits : HostAction δ Unit) =
      handOver queue kernel range waits >>= fun handed => dispatch handed.1 handed.2 := by
  unfold enqueueKernel handOver
  rw [bind_assoc]
  congr 1
  funext ⟨entry, geometry⟩
  simp only [bind_assoc, pure_bind]

/-- Handles are looked up before any device is asked. -/
theorem checked_refuses {kind : ObjectKind} {α : Type} (arena : Arena kind α)
    (handle : Handle kind) :
    Refuses (fun error => error.isFromDevice = false) (arena.checked handle) :=
  .checked fun _ => rfl

theorem launchRequest_refuses {line : Queue} {kernel : KernelHandle} {geometry : Geometry} :
    Refuses (fun error => error.isFromDevice = false)
      (launchRequest line kernel geometry host) := by
  refine (checked_refuses _ _).bind fun made _ => (checked_refuses _ _).bind fun program _ => ?_
  have builds : Refuses (fun error => error.isFromDevice = false)
      (host.launchModule program line.device) := by
    unfold launchModule
    split
    · exact .ok _
    · exact .of_error rfl
  refine builds.bind fun module _ => ?_
  split
  · exact .of_error rfl
  · refine (checked_refuses _ _).bind fun device _ => ?_
    exact ((Binding.block_refuses _ _ _).imp fun _ => HostError.isFromDevice_of_looksUp).bind
      fun _ _ => .ok _

/-- The host with a kernel changed. -/
def withChanged (host : Host SimulatedDevice) (kernel : KernelHandle) (change : Kernel → Kernel) :
    Host SimulatedDevice :=
  { host with
    registry := { host.registry with kernels := host.registry.kernels.modify kernel change } }

/-- The host after a launch was handed over: the geometry is noted with the kernel, and the one-shot
collectors of the context are used up. -/
def handedOver (host : Host SimulatedDevice) (kernel : KernelHandle) (geometry : Geometry)
    (context : ContextHandle) : Host SimulatedDevice :=
  let noted := host.withChanged kernel fun entry => { entry with geometry := some geometry }
  { noted with
    registry :=
      { noted.registry with
        contexts := noted.registry.contexts.modify context fun entry =>
          { entry with oneShot := [] } } }

/-- What the checks of a launch that is handed over find. -/
structure Ready (host : Host SimulatedDevice) (queue : QueueHandle) (kernel : KernelHandle)
    (range : LaunchRange) (waits : WaitList) (line : Queue) (geometry : Geometry)
    (request : LaunchRequest) (entry : Context) : Prop where
  passes : checkLaunch queue kernel range waits host = .ok (line, geometry)
  asked : launchRequest line kernel geometry (host.withChanged kernel fun entry =>
    { entry with geometry := some geometry }) = .ok request
  there : host.registry.contexts.get? line.context = some entry

/-- **A launch is refused before any device is asked, and a geometry is noted at most; or its
request goes to the device of the queue with the collectors of the context.** -/
theorem handOver_run (queue : QueueHandle) (kernel : KernelHandle) (range : LaunchRange)
    (waits : WaitList) (host : Host SimulatedDevice) :
    (∃ error after, handOver queue kernel range waits host = .error error after ∧
      error.isFromDevice = false ∧ (after = host ∨ ∃ geometry, after =
        host.withChanged kernel fun entry => { entry with geometry := some geometry })) ∨
    ∃ line geometry request entry,
      Ready host queue kernel range waits line geometry request entry ∧
      handOver queue kernel range waits host =
        .ok (line.device, { request with collectors := entry.launchCollectors })
          (host.handedOver kernel geometry line.context) := by
  unfold handOver
  cases passes : checkLaunch queue kernel range waits host with
  | error error =>
    have own := checkLaunch_refuses range waits (fun _ => HostError.isFromDevice_of_looksUp)
      (fun _ => rfl) (fun _ => rfl) error passes
    exact .inl ⟨error, host, bind_of_error (check_of_error passes), own, .inl rfl⟩
  | ok checked =>
    obtain ⟨line, geometry⟩ := checked
    rw [bind_of_ok (check_of_ok passes)]
    simp only
    have noted : changeKernel kernel (fun entry => { entry with geometry := some geometry }) host =
        .ok () (host.withChanged kernel fun entry =>
          { entry with geometry := some geometry }) := rfl
    rw [bind_of_ok noted]
    cases asked : launchRequest line kernel geometry
        (host.withChanged kernel fun entry => { entry with geometry := some geometry }) with
    | error error =>
      exact .inl ⟨error, _, bind_of_error (check_of_error asked),
        launchRequest_refuses error asked, .inr ⟨geometry, rfl⟩⟩
    | ok request =>
      rw [bind_of_ok (check_of_ok asked)]
      cases there : host.registry.contexts.checked line.context with
      | error error =>
        have gone : takeCollectors line.context
            (host.withChanged kernel fun entry => { entry with geometry := some geometry }) =
            .error error _ := bind_of_error (check_of_error there)
        exact .inl ⟨error, _, bind_of_error gone, checked_refuses _ _ error there,
          .inr ⟨geometry, rfl⟩⟩
      | ok entry =>
        have taken : takeCollectors line.context
            (host.withChanged kernel fun entry => { entry with geometry := some geometry }) =
            .ok entry.launchCollectors (host.handedOver kernel geometry line.context) :=
          bind_of_ok (check_of_ok there)
        exact .inr ⟨line, geometry, request, entry,
          ⟨passes, asked, Arena.checked_eq_ok_iff.mp there⟩, bind_of_ok taken⟩

/-- **A launch is calm**, however it ends. -/
theorem enqueueKernel_calm (queue : QueueHandle) (kernel : KernelHandle) (range : LaunchRange)
    (waits : WaitList) :
    Within Calm (enqueueKernel queue kernel range waits : HostAction SimulatedDevice _) := by
  refine within_seq (within_check _) fun (entry, geometry) => ?_
  refine within_seq (fun host => calm_changeKernel host kernel fun _ => rfl) fun _ => ?_
  refine within_seq (within_check _) fun request => ?_
  exact within_seq (takeCollectors_calm entry.context) fun collectors => dispatch_calm _ _

end Host

end ComputeHost
