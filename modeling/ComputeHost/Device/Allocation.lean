/-
**Allocations.**

An allocation is a piece of device memory: private to the device, visible to the host under some
flags, or the storage of a module's global variable.
-/

import ComputeHost.Device.Address

namespace ComputeHost

/-- Flags of host-visible memory. They stay with the contents when these move to another device. -/
structure HostAllocFlags where
  bits : UInt32
  deriving DecidableEq

namespace HostAllocFlags

/-- The memory is mapped into the address space of the device. -/
def mapped : HostAllocFlags := ⟨2⟩

instance : OrOp HostAllocFlags where
  or first second := ⟨first.bits ||| second.bits⟩

/-- Whether every flag of `other` is set. -/
def contains (flags other : HostAllocFlags) : Bool := flags.bits &&& other.bits == other.bits

/-- The flags as a description of them reads. -/
def text (flags : HostAllocFlags) : String :=
  "HostAllocFlags(" ++ toString flags.bits.toNat ++ ")"

end HostAllocFlags

/-- Who can see an allocation. -/
inductive Residency
  /-- Only the device. -/
  | deviceOnly
  /-- The host too. -/
  | hostVisible (flags : HostAllocFlags)
  /-- Storage of a global variable of a loaded module. -/
  | global
  deriving DecidableEq

/-- A live allocation, without its contents. -/
structure Allocation where
  address : Address
  size : Nat
  residency : Residency
  deriving DecidableEq

end ComputeHost
