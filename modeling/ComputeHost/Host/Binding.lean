/-
**Binding arguments.**

The arguments of a kernel become its parameter block. Eight bytes that are the handle of a live
buffer stand for the address of that buffer on the device; all other bytes stand for themselves.

* `Binding.block` fails when an argument is missing or the block cannot be had, and then at the
  first argument that does not fit its parameter.
-/

import ComputeHost.Host.Layout
import ComputeHost.Host.Registry

namespace ComputeHost

/-! ### Memory of the host -/

/-- The largest block that can be asked for. -/
def largestBlock : Nat := 1 <<< 63 - 1

/-- Why a block of the given size cannot be had from an allocator that gives blocks below
`memory`. -/
def blockRefusal? (memory size : Nat) : Option String :=
  if largestBlock < size then
    some ("memory allocation failed because the computed capacity exceeded the collection's " ++
      "maximum")
  else if memory ≤ size then
    some "memory allocation failed because the memory allocator returned an error"
  else none

/-- What arguments are bound against: the buffers, the device that will run the kernel, and the
memory that blocks are taken from. -/
structure Binding where
  buffers : Arena ObjectKind.buffer Buffer
  device : DeviceHandle
  deviceName : String
  hostMemory : Nat

namespace Binding

/-- The buffer that an argument names, if it is eight bytes and the handle of a live buffer. -/
def referenced? (binding : Binding) (argument : Bytes) : Option Buffer :=
  if argument.length = 8 then
    binding.buffers.get? (.ofBits (UInt64.ofNat (Bytes.ofLittleEndian argument)))
  else none

/-- The bytes of an argument in the block of its kernel. -/
def bindArgument (binding : Binding) (index : Nat) (parameter : Parameter)
    (argument : Option Bytes) : Except HostError Bytes :=
  match argument with
  | none => .error (.argValue index)
  | some argument =>
    match binding.referenced? argument with
    | some buffer =>
      if parameter.size ≠ Address.width then
        .error (.argSize index parameter.size Address.width)
      else
        match buffer.addressOn? binding.device with
        | some address => .ok address.toBytes
        | none =>
          .error (.memAllocation binding.deviceName
            ("argument " ++ toString index ++ " has no allocation on this device"))
    | none =>
      if argument.length ≠ parameter.size then
        .error (.argSize index parameter.size argument.length)
      else .ok argument

/-- The bytes of all arguments, from the parameter of the given index on. -/
def bindArguments (binding : Binding) :
    (index : Nat) → List Parameter → List (Option Bytes) → Except HostError (List Bytes)
  | _, [], _ => .ok []
  | index, parameter :: parameters, arguments => do
    let piece ← binding.bindArgument index parameter (arguments.head?.getD none)
    return piece :: (← binding.bindArguments (index + 1) parameters arguments.tail)

/-- Pieces at their offsets in a block that is already `position` bytes long, with zeros
between. -/
def assemble : (position : Nat) → List (Nat × Bytes) → Block
  | _, [] => .zeroed 0
  | position, (offset, piece) :: rest =>
    .zeroed (offset - position) ++ .ofBytes piece ++ assemble (offset + piece.length) rest

/-- The parameter block of a kernel. -/
def block (binding : Binding) (signature : KernelSignature) (kernel : Kernel) :
    Except HostError Block := do
  let declared := signature.parameters.length
  if kernel.boundCount ≠ declared then throw (.kernelArgs kernel.boundCount declared)
  let layout := ParameterLayout.ofSignature signature
  if let some reason := blockRefusal? binding.hostMemory layout.size then
    throw (.memAllocation "host" reason)
  let pieces ← binding.bindArguments 0 signature.parameters kernel.arguments
  return assemble 0 (layout.offsets.zip pieces)

end Binding

end ComputeHost
