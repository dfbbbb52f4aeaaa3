/-
**A simulated device.**

The device keeps memory, modules and streams as a real one would, but a launch runs nothing: it
tells the collectors what they would see and keeps a record. A probe counts what the device was
asked to do, and switches make launches, allocations or streams fail.

* Operations on an unselected device fail and are counted.
* A launch takes the fault that was armed for it, whether or not collectors watch.
-/

import ComputeHost.Device.Driver
import ComputeHost.Device.Heap

namespace ComputeHost

/-- What a device was asked to do. -/
structure Probe where
  selects : Nat := 0
  unselects : Nat := 0
  /-- Selections of a device that was selected already. -/
  nestingViolations : Nat := 0
  /-- Operations on the device while it was not selected. -/
  unselectedAccesses : Nat := 0
  /-- The modules that were loaded, in order. -/
  loads : List String := []
  /-- The modules that were to be unloaded, in order. -/
  unloads : List String := []
  /-- The launches that ran, in order. -/
  launches : List LaunchRecord := []
  optimization : Option OptimizationLevel := none
  /-- How many streams were created. -/
  streams : Nat := 0
  released : Bool := false

/-- Faults that a device is told to have. -/
structure Switches where
  /-- The fault of the next launch. -/
  launchFault : Option String := none
  failAllocations : Bool := false
  failStreams : Bool := false

/-- A module on a device. -/
structure LoadedModule where
  module : KernelModule
  /-- The storage of each global variable. -/
  globals : List (String × Address)

/-- A device that simulates launches. -/
structure SimulatedDevice where
  properties : DeviceProperties
  selected : Bool := false
  heap : Heap
  /-- The loaded modules, in the order of loading. -/
  modules : List LoadedModule := []
  probe : Probe := {}
  switches : Switches := {}

namespace SimulatedDevice

/-- The devices are numbered from 1, and each draws its addresses from a window of 4 GiB. -/
def windowBase (number : Nat) : Nat := number * UInt32.size

/-- The device of a number, with the given properties. -/
def new (number : Nat) (properties : DeviceProperties) : SimulatedDevice where
  properties
  heap := Heap.start (windowBase number) properties.globalMemory.toNat

/-- The module of a name. -/
def loaded? (device : SimulatedDevice) (name : String) : Option LoadedModule :=
  device.modules.find? fun loaded => loaded.module.name == name

/-- The device with a change in its probe. -/
def note (device : SimulatedDevice) (change : Probe → Probe) : SimulatedDevice :=
  { device with probe := change device.probe }

/-- Binds the device; binding it twice is counted. -/
def select (device : SimulatedDevice) : SimulatedDevice :=
  { device with
    selected := true
    probe :=
      { device.probe with
        selects := device.probe.selects + 1
        nestingViolations :=
          device.probe.nestingViolations + if device.selected then 1 else 0 } }

/-- Ends the binding. -/
def unselect (device : SimulatedDevice) : SimulatedDevice :=
  { device with
    selected := false
    probe := { device.probe with unselects := device.probe.unselects + 1 } }

/-- Fails, and counts the failure, unless the device is selected. -/
def ensureSelected : DeviceAction SimulatedDevice Unit := fun device =>
  if device.selected then .ok () device
  else
    .error (.notSelected device.properties.name)
      (device.note fun probe => { probe with unselectedAccesses := probe.unselectedAccesses + 1 })

/-- An operation on the heap of the device. -/
def onHeap {α : Type} (action : HeapAction α) : DeviceAction SimulatedDevice α := fun device =>
  match action device.heap with
  | .ok value heap => .ok value { device with heap }
  | .error cause heap => .error cause { device with heap }

/-- A block of memory, unless allocations are switched to fail. -/
def allocateAs (residency : Residency) (size : Nat) : DeviceAction SimulatedDevice Address := do
  ensureSelected
  if (← get).switches.failAllocations then throw (.outOfMemory size 0)
  onHeap (Heap.allocate size residency)

/-- Gives memory back. -/
def free (address : Address) : DeviceAction SimulatedDevice Unit := do
  ensureSelected
  onHeap (Heap.free address)

/-- Copies a block into memory. -/
def write (address : Address) (offset : Nat) (data : Block) :
    DeviceAction SimulatedDevice Unit := do
  ensureSelected
  onHeap (Heap.write address offset data)

/-- Copies a range out of memory. -/
def read (address : Address) (offset length : Nat) : DeviceAction SimulatedDevice Block := do
  ensureSelected
  onHeap (Heap.read address offset length)

/-- Makes storage for global variables, with their initial contents. -/
def placeGlobals : List GlobalVariable → DeviceAction SimulatedDevice (List (String × Address))
  | [] => pure []
  | global :: rest => do
    let address ← allocateAs .global global.size
    match global.initial with
    | some data => write address 0 (.ofBytes data)
    | none => pure ()
    return (global.name, address) :: (← placeGlobals rest)

/-- Loads a module unless one of its name is loaded. Storage that was made before a failure
stays. -/
def loadModule (module : KernelModule) : DeviceAction SimulatedDevice Unit := do
  ensureSelected
  if ((← get).loaded? module.name).isNone then
    let globals ← placeGlobals module.globals
    modify fun device =>
      { device with
        modules := device.modules ++ [⟨module, globals⟩]
        probe := { device.probe with loads := device.probe.loads ++ [module.name] } }

/-- Frees addresses one after the other. -/
def freeAll : List Address → DeviceAction SimulatedDevice Unit
  | [] => pure ()
  | address :: rest => do
    free address
    freeAll rest

/-- Unloads a module and frees the storage of its global variables, in the order of declaration; any
other order has the same outcome (`freeAll_perm`). -/
def unloadModule (name : String) : DeviceAction SimulatedDevice Unit := do
  ensureSelected
  match (← get).loaded? name with
  | some loaded =>
    modify fun device =>
      { device with modules := device.modules.filter fun other => other.module.name ≠ name }
    freeAll (loaded.globals.map Prod.snd)
  | none => pure ()
  modify fun device => device.note fun probe => { probe with unloads := probe.unloads ++ [name] }

/-- The storage of a global variable of a loaded module. -/
def globalAllocation? (module symbol : String) (device : SimulatedDevice) : Option Allocation := do
  let loaded ← device.loaded? module
  let address ← loaded.globals.lookup symbol
  device.heap.info? address

/-- A new stream, unless streams are switched to fail. -/
def createStream : DeviceAction SimulatedDevice StreamId := do
  ensureSelected
  let device ← get
  if device.switches.failStreams then
    throw (.streamCreation ("stream limit reached on '" ++ device.properties.name ++ "'"))
  set (device.note fun probe => { probe with streams := probe.streams + 1 })
  return ⟨device.probe.streams + 1⟩

/-! ### Launches -/

/-- What every collector is told first. -/
def openingSignals (summary : LaunchSummary) (collectors : List CollectorId) :
    List (CollectorId × Signal) :=
  collectors.flatMap fun collector =>
    [(collector, .start summary), (collector, .event (.launchBegin summary))]

/-- What every collector is told last: a measurement if the launch ran, and how it ended. -/
def closingSignals (summary : LaunchSummary) (ran : Bool) (collectors : List CollectorId) :
    List (CollectorId × Signal) :=
  collectors.flatMap fun collector =>
    (if ran then [(collector, .event (.profile (.instructionCount summary.workItems)))] else []) ++
      [(collector, .event (.launchEnd summary.kernel ran)), (collector, .finish)]

/-- Refuses a launch on an unselected device, of a module that is not loaded, or of a kernel that
the module does not have. -/
def checkLaunch (request : LaunchRequest) : DeviceAction SimulatedDevice Unit := do
  ensureSelected
  match (← get).loaded? request.module with
  | none => throw (.moduleNotLoaded request.module)
  | some loaded =>
    if (loaded.module.kernel? request.kernel).isNone then
      throw (.kernelNotFound request.module request.kernel)

/-- Simulates a launch. -/
def launch (request : LaunchRequest) (device : SimulatedDevice) :
    LaunchReport × SimulatedDevice :=
  match checkLaunch request device with
  | .error cause device => (⟨[], .error cause⟩, device)
  | .ok () device =>
    let summary := request.summary device.properties.name
    let fault := device.switches.launchFault
    let signals := openingSignals summary request.collectors ++
      closingSignals summary fault.isNone request.collectors
    let device := { device with switches := { device.switches with launchFault := none } }
    match fault with
    | some fault => (⟨signals, .error (.execution fault)⟩, device)
    | none =>
      (⟨signals, .ok ()⟩,
        device.note fun probe => { probe with launches := probe.launches ++ [request.record] })

/-- Gives up modules and memory. -/
def release (device : SimulatedDevice) : SimulatedDevice :=
  { device with
    selected := false
    heap := device.heap.clear
    modules := []
    probe := { device.probe with released := true } }

/-! ### Switching faults -/

/-- A change of the faults that a device has. -/
inductive Switch
  /-- The next launch fails with this fault. -/
  | failNextLaunch (fault : String)
  /-- Whether allocations fail. -/
  | failAllocations (fail : Bool)
  /-- Whether streams fail. -/
  | failStreams (fail : Bool)

/-- The device with the switch set. -/
def turn (device : SimulatedDevice) (switch : Switch) : SimulatedDevice :=
  { device with
    switches :=
      match switch with
      | .failNextLaunch fault => { device.switches with launchFault := some fault }
      | .failAllocations fail => { device.switches with failAllocations := fail }
      | .failStreams fail => { device.switches with failStreams := fail } }

instance : DeviceDriver SimulatedDevice where
  properties := properties
  select := select
  unselect := unselect
  loadModule := loadModule
  unloadModule := unloadModule
  setOptimization level device := device.note fun probe => { probe with optimization := some level }
  allocate := allocateAs .deviceOnly
  allocateHost size flags := allocateAs (.hostVisible flags) size
  free := free
  write := write
  read := read
  hostView address device := (device.heap.hostView address, device)
  allocations device := device.heap.nonGlobal
  globalAllocation? := globalAllocation?
  createStream := createStream
  launch := launch
  release := release

end SimulatedDevice

end ComputeHost
