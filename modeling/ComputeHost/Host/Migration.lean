/-
**Moving memory from one device to another.**

Every allocation of the source is copied to the target and then freed, one after the other, each
operation under a selection of its own. The storage of global variables stays where it is; its
contents are copied. The storage on both devices is looked up before anything moves.

* `relocate` keeps private memory private, and host-visible memory host-visible under its flags.
-/

import ComputeHost.Device.Driver
import ComputeHost.Host.Error

namespace ComputeHost

/-- Two devices, the one that memory leaves and the one it goes to. -/
structure DevicePair (δ : Type) where
  source : δ
  target : δ

/-- An operation on two devices. -/
abbrev MigrationAction (δ : Type) := EStateM HostError (DevicePair δ)

/-- The new address of each allocation that moved, in the order of moving. -/
abbrev AddressMap := List (Address × Address)

namespace Migration

variable {δ α : Type} [DeviceDriver δ]

/-- One operation on the source. -/
def onSource (action : DeviceAction δ α) : MigrationAction δ α := fun pair =>
  match DeviceDriver.selected action pair.source with
  | .ok value source => .ok value { pair with source }
  | .error cause source => .error (.device cause) { pair with source }

/-- One operation on the target. -/
def onTarget (action : DeviceAction δ α) : MigrationAction δ α := fun pair =>
  match DeviceDriver.selected action pair.target with
  | .ok value target => .ok value { pair with target }
  | .error cause target => .error (.device cause) { pair with target }

/-- The view that the source gives of host-visible memory. -/
def sourceView (address : Address) : MigrationAction δ Block := fun pair =>
  match DeviceDriver.hostView address pair.source with
  | (some view, source) => .ok view { pair with source }
  | (none, source) => .error (.device (.invalidPointer address)) { pair with source }

/-- Copies one allocation to the target; gives its address there. Storage of a global variable has
no copy. -/
def copyOver (allocation : Allocation) : MigrationAction δ (Option Address) := do
  match allocation.residency with
  | .deviceOnly =>
    let data ← onSource (DeviceDriver.read allocation.address 0 allocation.size)
    let moved ← onTarget (DeviceDriver.allocate allocation.size)
    onTarget (DeviceDriver.write moved 0 data)
    return some moved
  | .hostVisible flags =>
    let moved ← onTarget (DeviceDriver.allocateHost allocation.size flags)
    let data ← sourceView allocation.address
    onTarget (DeviceDriver.write moved 0 data)
    return some moved
  | .global => return none

/-- Moves allocations, one after the other. -/
def relocate : List Allocation → MigrationAction δ AddressMap
  | [] => pure []
  | allocation :: rest => do
    match ← copyOver allocation with
    | none => relocate rest
    | some moved =>
      onSource (DeviceDriver.free allocation.address)
      return (allocation.address, moved) :: (← relocate rest)

/-- The storage of a global variable on both devices. -/
def storagePair (pair : DevicePair δ) (module : KernelModule) (global : GlobalVariable) :
    Except HostError (Allocation × Allocation) :=
  match DeviceDriver.globalAllocation? module.name global.name pair.source,
    DeviceDriver.globalAllocation? module.name global.name pair.target with
  | some source, some target => .ok (source, target)
  | _, _ =>
    .error (.invalidValue
      ("global '" ++ global.name ++ "' of module '" ++ module.name ++
        "' is not mirrored on both devices"))

/-- The storage of all global variables of modules, on both devices. -/
def storagePairs (pair : DevicePair δ) (modules : List KernelModule) :
    Except HostError (List (Allocation × Allocation)) :=
  (modules.flatMap fun module => module.globals.map fun global => (module, global)).mapM
    fun (module, global) => storagePair pair module global

/-- Copies the contents of global variables. -/
def copyGlobals : List (Allocation × Allocation) → MigrationAction δ Unit
  | [] => pure ()
  | (source, target) :: rest => do
    let data ← onSource (DeviceDriver.read source.address 0 (min source.size target.size))
    onTarget (DeviceDriver.write target.address 0 data)
    copyGlobals rest

/-- Moves the memory of the source to the target and copies the global variables of modules. -/
def migrate (modules : List KernelModule) : MigrationAction δ AddressMap := do
  let globals ← fun pair =>
    match storagePairs pair modules with
    | .ok globals => .ok globals pair
    | .error error => .error error pair
  let moved ← relocate (DeviceDriver.allocations (← get).source)
  copyGlobals globals
  return moved

end Migration

end ComputeHost
