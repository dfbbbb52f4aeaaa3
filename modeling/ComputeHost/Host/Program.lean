/-
**Programs and modules.**

A program is built by registering its text as a module of a name of its own and loading that module
onto the devices asked for. If one device refuses, the module is taken off all devices again.

* `unregisterModule` unloads a module from every device and then forgets it; the first device that
  refuses ends it.
-/

import ComputeHost.Host.Basic
import ComputeHost.Host.Info

namespace ComputeHost

/-- What can be asked of a program. -/
inductive ProgramQuery
  | context
  | numDevices
  | devices
  | source
  | binarySizes
  | binaries
  | numKernels
  | kernelNames
  | referenceCount
  deriving DecidableEq

namespace Host

variable {δ : Type}

/-! ### Modules -/

/-- Replaces the table of modules. -/
def setModules (modules : ModuleTable) : HostAction δ Unit :=
  modify fun host => { host with modules }

/-- Registers a text as a module. -/
def registerModule (name source : String) : HostAction δ Unit := do
  setModules (← check fun host => host.modules.register name source)

/-- Unloads a module from devices, one after the other. -/
def unloadFrom [DeviceDriver δ] (name : String) : List DeviceHandle → HostAction δ Unit
  | [] => pure ()
  | device :: rest => do
    onDevice device .device (DeviceDriver.unloadModule name)
    unloadFrom name rest

/-- Unloads a module from every device and forgets it. -/
def unregisterModule [DeviceDriver δ] (name : String) : HostAction δ Unit := do
  let host ← get
  if (host.modules.find? name).isNone then throw (.moduleNotFound name)
  unloadFrom name host.registry.devices.handles
  setModules ((← get).modules.remove name)

/-- Loads a module onto a device unless it is there. -/
def loadOn [DeviceDriver δ] (name : String) (device : DeviceHandle) : HostAction δ Unit := do
  let host ← get
  match host.modules.find? name with
  | none => throw (.moduleNotFound name)
  | some entry =>
    if !entry.loadedOn.contains device then
      onDevice device .device do
        DeviceDriver.loadModule entry.module
        modify (DeviceDriver.setOptimization host.optimization)
      setModules ((← get).modules.markLoaded name device)

/-- The level for modules loaded from now on. -/
def setOptimization (level : OptimizationLevel) : HostAction δ Unit :=
  modify fun host => { host with optimization := level }

/-! ### Programs -/

/-- Makes a program of pieces of text, which must not all be empty. -/
def createProgram (context : ContextHandle) (sources : List String) :
    HostAction δ ProgramHandle := do
  discard (check fun host => host.registry.contexts.checked context)
  if sources.all String.isEmpty then throw (.invalidValue "program source is empty")
  register fun registry => registry.addProgram { context, source := String.join sources }

/-- Checks devices that a program is to be built for. -/
def checkTargets (host : Host δ) (context : Context) : List DeviceHandle → Except HostError Unit
  | [] => .ok ()
  | device :: rest => do
    discard (host.registry.devices.checked device)
    if !context.devices.contains device then throw .deviceNotInContext
    host.checkTargets context rest

/-- The devices to build for: those given, or all of the context. -/
def buildTargets (host : Host δ) (context : Context) :
    Option (List DeviceHandle) → Except HostError (List DeviceHandle)
  | none => .ok context.devices
  | some [] => .error (.invalidValue "empty device list")
  | some devices => do
    host.checkTargets context devices
    return devices

/-- Checks a build; gives the program and the devices to build for. -/
def checkBuild (handle : ProgramHandle) (devices : Option (List DeviceHandle))
    (options : Option String) (notify : Bool) (host : Host δ) :
    Except HostError (Program × List DeviceHandle) := do
  let program ← host.registry.programs.checked handle
  let context ← host.registry.contexts.checked program.context
  let targets ← host.buildTargets context devices
  if options.any fun text => !Text.isAllBlank text then throw (.unimplemented "build options")
  if notify then throw (.unimplemented "build notification callback")
  return (program, targets)

/-- The name of the module of a build. -/
def buildName (number : Nat) : String := "program" ++ toString number

/-- Loads a module onto devices; if one refuses, the module is unregistered. -/
def loadOnAll [DeviceDriver δ] (name : String) : List DeviceHandle → HostAction δ Unit
  | [] => pure ()
  | device :: rest => fun host =>
    match loadOn name device host with
    | .ok () host => loadOnAll name rest host
    | .error error host =>
      match attempt (unregisterModule name) host with
      | .ok () host | .error _ host => .error error host

/-- Builds a program. A program that is built already stays as it is. -/
def buildProgram [DeviceDriver δ] (handle : ProgramHandle) (devices : Option (List DeviceHandle))
    (options : Option String) (notify : Bool) : HostAction δ Unit := do
  let (program, targets) ← check (checkBuild handle devices options notify)
  if program.builds.isNone then
    let number := (← get).nextBuild
    let name := buildName number
    modify fun host => { host with nextBuild := number + 1 }
    registerModule name program.source
    loadOnAll name targets
    let builds := targets.map (Build.ofText name program.source)
    register fun registry =>
      ((), { registry with
        programs := registry.programs.modify handle fun program =>
          { program with builds := some builds } })

/-- The module of a program, found by its first build. -/
def programModule (host : Host δ) (program : Program) : Except HostError KernelModule :=
  match (program.builds.getD []).head?.bind fun build => host.modules.module? build.module with
  | some module => .ok module
  | none => .error .programNotBuilt

/-- Asks a program. -/
def askProgram (handle : ProgramHandle) (query : ProgramQuery) (host : Host δ) :
    Except HostError InfoValue := do
  let program ← host.registry.programs.checked handle
  let context ← host.registry.contexts.checked program.context
  match query with
  | .context => return .context program.context
  | .numDevices => return .uint (UInt32.ofNat context.devices.length)
  | .devices => return .devices context.devices
  | .source => return .text program.source
  | .binarySizes =>
    return .sizes (context.devices.map fun device =>
      UInt64.ofNat (program.binaryFor device).length)
  | .binaries => return .binaries (context.devices.map program.binaryFor)
  | .numKernels => return .size (UInt64.ofNat (← host.programModule program).kernels.length)
  | .kernelNames =>
    return .text (";".intercalate ((← host.programModule program).kernels.map fun kernel =>
      kernel.name))
  | .referenceCount => return .uint 1

/-- Asks a program. -/
def programInfo (program : ProgramHandle) (query : ProgramQuery) : HostAction δ InfoValue :=
  check (askProgram program query)

end Host

end ComputeHost
