/-
**Devices that fail on schedule.**

An unreliable device passes every operation on to the device inside, except those that its
schedule picks: after a number of calls have gone through, the next ones fail without reaching the
device.
-/

import ComputeHost.Device.Driver

namespace ComputeHost

/-- The operations that can be made to fail. -/
inductive Faultable
  | loadModule
  | unloadModule
  | allocate
  | allocateHost
  | free
  | write
  | read
  | launch
  | hostView
  deriving DecidableEq

/-- The name of the operation. -/
def Faultable.text : Faultable → String
  | loadModule => "load_module"
  | unloadModule => "unload_module"
  | allocate => "allocate"
  | allocateHost => "allocate_host"
  | free => "free"
  | write => "write"
  | read => "read"
  | launch => "launch"
  | hostView => "host_view"

/-- How many calls go through, and how many fail after that. -/
structure Schedule where
  skip : Nat
  count : Nat

/-- A device with schedules for some of its operations. -/
structure Unreliable (δ : Type) where
  device : δ
  schedule : Faultable → Option Schedule := fun _ => none

namespace Unreliable

variable {δ : Type}

/-- The device with a schedule for an operation, in place of the one before. -/
def plan (unreliable : Unreliable δ) (operation : Faultable) (schedule : Schedule) : Unreliable δ :=
  { unreliable with
    schedule := fun other =>
      if other = operation then some schedule else unreliable.schedule other }

/-- Counts one call of an operation: whether it fails, and the device after it. -/
def take (operation : Faultable) (unreliable : Unreliable δ) : Bool × Unreliable δ :=
  match unreliable.schedule operation with
  | some ⟨skip + 1, count⟩ => (false, unreliable.plan operation ⟨skip, count⟩)
  | some ⟨0, count + 1⟩ => (true, unreliable.plan operation ⟨0, count⟩)
  | _ => (false, unreliable)

/-- The error of an operation that was made to fail. -/
def fault (operation : Faultable) : DeviceError := .unsupported ("injected " ++ operation.text)

/-- An operation of the device inside. -/
def inside {α : Type} (action : DeviceAction δ α) : DeviceAction (Unreliable δ) α :=
  fun unreliable =>
    match action unreliable.device with
    | .ok value device => .ok value { unreliable with device }
    | .error cause device => .error cause { unreliable with device }

/-- An operation of the device inside, unless its schedule makes it fail. -/
def scheduled {α : Type} (operation : Faultable) (action : DeviceAction δ α) :
    DeviceAction (Unreliable δ) α := fun unreliable =>
  match unreliable.take operation with
  | (true, unreliable) => .error (fault operation) unreliable
  | (false, unreliable) => inside action unreliable

variable [DeviceDriver δ]

/-- The view of the device inside, or none when its schedule makes it fail. -/
def hostView (address : Address) (unreliable : Unreliable δ) : Option Block × Unreliable δ :=
  match unreliable.take .hostView with
  | (true, unreliable) => (none, unreliable)
  | (false, unreliable) =>
    let (view, device) := DeviceDriver.hostView address unreliable.device
    (view, { unreliable with device })

/-- A launch on the device inside, unless its schedule makes it fail. -/
def launch (request : LaunchRequest) (unreliable : Unreliable δ) : LaunchReport × Unreliable δ :=
  match unreliable.take .launch with
  | (true, unreliable) => (⟨[], .error (fault .launch)⟩, unreliable)
  | (false, unreliable) =>
    let (report, device) := DeviceDriver.launch request unreliable.device
    (report, { unreliable with device })

instance : DeviceDriver (Unreliable δ) where
  properties unreliable := DeviceDriver.properties unreliable.device
  select unreliable := { unreliable with device := DeviceDriver.select unreliable.device }
  unselect unreliable := { unreliable with device := DeviceDriver.unselect unreliable.device }
  loadModule module := scheduled .loadModule (DeviceDriver.loadModule module)
  unloadModule name := scheduled .unloadModule (DeviceDriver.unloadModule name)
  setOptimization level unreliable :=
    { unreliable with device := DeviceDriver.setOptimization level unreliable.device }
  allocate size := scheduled .allocate (DeviceDriver.allocate size)
  allocateHost size flags := scheduled .allocateHost (DeviceDriver.allocateHost size flags)
  free address := scheduled .free (DeviceDriver.free address)
  write address offset data := scheduled .write (DeviceDriver.write address offset data)
  read address offset length := scheduled .read (DeviceDriver.read address offset length)
  hostView := hostView
  allocations unreliable := DeviceDriver.allocations unreliable.device
  globalAllocation? module symbol unreliable :=
    DeviceDriver.globalAllocation? module symbol unreliable.device
  createStream := inside DeviceDriver.createStream
  launch := launch
  release unreliable := { unreliable with device := DeviceDriver.release unreliable.device }

end Unreliable

end ComputeHost
