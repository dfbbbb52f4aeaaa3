/-
**What a host asks of a device.**

A device works between `select` and `unselect`; selections do not nest. An operation that fails
may still have changed the device, so a state is given back with every error.
-/

import ComputeHost.Device.Allocation
import ComputeHost.Device.Launch
import ComputeHost.Device.Optimization
import ComputeHost.Device.Properties
import ComputeHost.Module.Basic

namespace ComputeHost

/-- An operation of a device of type `δ`. -/
abbrev DeviceAction (δ : Type) := EStateM DeviceError δ

/-- The operations of a device of type `δ`. -/
class DeviceDriver (δ : Type) where
  /-- What the device is. -/
  properties : δ → DeviceProperties
  /-- Binds the device to the caller. -/
  select : δ → δ
  /-- Ends what `select` began. -/
  unselect : δ → δ
  /-- Loads a module and makes storage for its global variables. -/
  loadModule : KernelModule → DeviceAction δ Unit
  /-- Unloads a module; one that is not loaded is no error. -/
  unloadModule : String → DeviceAction δ Unit
  /-- The level for modules loaded from now on. -/
  setOptimization : OptimizationLevel → δ → δ
  /-- Memory that only the device sees. -/
  allocate : (size : Nat) → DeviceAction δ Address
  /-- Memory that the host sees too. -/
  allocateHost : (size : Nat) → HostAllocFlags → DeviceAction δ Address
  /-- Gives memory back. -/
  free : Address → DeviceAction δ Unit
  /-- Copies a block into memory. -/
  write : Address → (offset : Nat) → Block → DeviceAction δ Unit
  /-- Copies a range out of memory. -/
  read : Address → (offset length : Nat) → DeviceAction δ Block
  /-- The contents of memory that the host sees. -/
  hostView : Address → δ → Option Block × δ
  /-- The live memory in the order of allocation, storage of global variables left out. -/
  allocations : δ → List Allocation
  /-- The storage of a global variable of a loaded module. -/
  globalAllocation? : (module symbol : String) → δ → Option Allocation
  /-- A stream for a queue. -/
  createStream : DeviceAction δ StreamId
  /-- Runs a kernel to its end. -/
  launch : LaunchRequest → δ → LaunchReport × δ
  /-- Gives up everything the device holds. -/
  release : δ → δ

/-- Runs an operation between selecting and unselecting the device. -/
def DeviceDriver.selected {δ α : Type} [DeviceDriver δ] (action : DeviceAction δ α) :
    DeviceAction δ α := fun device =>
  match action (select device) with
  | .ok value device => .ok value (unselect device)
  | .error cause device => .error cause (unselect device)

end ComputeHost
