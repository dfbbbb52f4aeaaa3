/-
**Launching kernels.**

A launch is checked, its geometry is noted with the kernel, its arguments are bound, and the
one-shot collectors of the context are used up; then the device runs it. A fault of the running
kernel is reported on the diagnostic channel.
-/

import ComputeHost.Host.Binding
import ComputeHost.Host.Kernel
import ComputeHost.Host.Transfer

namespace ComputeHost.Host

variable {δ : Type} [DeviceDriver δ]

/-- Checks a launch up to its events; gives the queue and the geometry. -/
def checkLaunch (queue : QueueHandle) (kernel : KernelHandle) (range : LaunchRange)
    (waits : WaitList) (host : Host δ) : Except HostError (Queue × Geometry) := do
  let queue ← host.registry.queues.checked queue
  let kernel ← host.registry.kernels.checked kernel
  if kernel.context ≠ queue.context then throw (.contextMismatch .kernel)
  if kernel.boundCount = 0 then throw (.kernelArgs 0 kernel.arguments.length)
  let geometry ← Geometry.ofRange range
  waits.check
  return (queue, geometry)

/-- The module that a program was built into for a device. -/
def launchModule (host : Host δ) (program : Program) (device : DeviceHandle) :
    Except HostError KernelModule :=
  match (program.buildFor? device).bind fun build => host.modules.module? build.module with
  | some module => .ok module
  | none => .error .programNotBuilt

/-- What arguments for a device of the given name are bound against. -/
def binding (host : Host δ) (device : DeviceHandle) (name : String) : Binding :=
  ⟨host.registry.buffers, device, name, host.settings.hostMemory⟩

/-- The request for a launch, still without collectors. -/
def launchRequest (queue : Queue) (handle : KernelHandle) (geometry : Geometry) (host : Host δ) :
    Except HostError LaunchRequest := do
  let kernel ← host.registry.kernels.checked handle
  let program ← host.registry.programs.checked kernel.program
  let module ← host.launchModule program queue.device
  match module.kernel? kernel.name with
  | none => throw (.kernelNotFound kernel.name)
  | some signature =>
    let device ← host.registry.devices.checked queue.device
    let parameters ← (host.binding queue.device device.name).block signature kernel
    return {
      module := module.name
      kernel := kernel.name
      stream := queue.stream
      workGroups := Geometry.words geometry.groups
      localSize := Geometry.words geometry.localSize
      parameters
      collectors := [] }

/-- The collectors of the next launch in a context; the one-shot ones are used up. -/
def takeCollectors (context : ContextHandle) : HostAction δ (List CollectorId) := do
  let entry ← check fun host => host.registry.contexts.checked context
  register fun registry =>
    (entry.launchCollectors,
      { registry with
        contexts := registry.contexts.modify context fun entry => { entry with oneShot := [] } })

/-- A launch on a selected device. -/
def launchSelected (request : LaunchRequest) (backend : δ) : LaunchReport × δ :=
  let (report, backend) := DeviceDriver.launch request (DeviceDriver.select backend)
  (report, DeviceDriver.unselect backend)

/-- Sends a request to a device and tells the collectors what the device tells them, while the host
counts as executing. -/
def execute (handle : DeviceHandle) (request : LaunchRequest) :
    HostAction δ (Except DeviceError Unit) := fun host =>
  match host.registry.devices.checked handle with
  | .error error => .error error host
  | .ok device =>
    let (report, backend) := launchSelected request device.backend
    let host := ({ host with executing := true }.setBackend handle backend).tellAll report.signals
    .ok report.result { host with executing := false }

/-- Runs a request; a fault of the running kernel is written to the diagnostic channel. -/
def dispatch (handle : DeviceHandle) (request : LaunchRequest) : HostAction δ Unit := do
  match ← execute handle request with
  | .ok () => pure ()
  | .error (.execution fault) =>
    modify fun host =>
      { host with
        diagnostics :=
          host.diagnostics ++ (Diagnostics.report host.settings.stamp fault).events }
    throw (.launchFailed request.kernel fault)
  | .error cause => throw (.device cause)

/-- Launches a kernel on the device of a queue and waits for its end. -/
def enqueueKernel (queue : QueueHandle) (kernel : KernelHandle) (range : LaunchRange)
    (waits : WaitList) : HostAction δ Unit := do
  let (entry, geometry) ← check (checkLaunch queue kernel range waits)
  changeKernel kernel fun kernel => { kernel with geometry := some geometry }
  let request ← check (launchRequest entry kernel geometry)
  let collectors ← takeCollectors entry.context
  dispatch entry.device { request with collectors }

end ComputeHost.Host
