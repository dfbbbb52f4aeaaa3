/-
**Buffers.**

A buffer is allocated on every device of its context. If one device has no room, what was allocated
for it on the devices before is given back.
-/

import ComputeHost.Host.Basic
import ComputeHost.Host.Info

namespace ComputeHost

/-- What can be asked of a buffer. -/
inductive BufferQuery
  | size
  | flags
  | context
  deriving DecidableEq

/-- The answer of a buffer. -/
def Buffer.info (buffer : Buffer) : BufferQuery → InfoValue
  | .size => .size (UInt64.ofNat buffer.size)
  | .flags => .bufferFlags buffer.flags
  | .context => .context buffer.context

/-- What a buffer is made with. -/
structure BufferRequest where
  flags : BufferFlags
  size : Nat
  /-- Bytes of the host to copy from. -/
  data : Option Bytes

namespace BufferRequest

/-- The bytes that the buffer starts with, if it does not start with zeros; an error if data and
flags do not agree, or if there is too little data. -/
def initial (request : BufferRequest) : Except HostError (Option Bytes) :=
  match request.flags.contains .copyHostPtr, request.data with
  | true, none => .error (.invalidHostPtr "COPY_HOST_PTR without host data")
  | false, some _ => .error (.invalidHostPtr "host data without COPY_HOST_PTR")
  | true, some data =>
    if data.length < request.size then
      .error (.invalidHostPtr
        (toString data.length ++ " bytes of host data for a " ++ toString request.size ++
          "-byte buffer"))
    else .ok (some (data.take request.size))
  | false, none => .ok none

/-- Checks the request by itself; gives the bytes that the buffer starts with. -/
def check (request : BufferRequest) : Except HostError (Option Bytes) := do
  if request.flags.hasUnknown then
    throw (.invalidValue ("unknown memory flags " ++ request.flags.text))
  if 1 < request.flags.accessCount then throw (.invalidValue "conflicting access flags")
  if request.flags.contains .useHostPtr then throw (.unimplemented "USE_HOST_PTR")
  if request.size = 0 then throw (.invalidBufferSize request.size)
  request.initial

end BufferRequest

/-- Allocates a buffer on a device and writes the bytes it starts with. If these cannot be written,
the allocation is given back. -/
def allocateBuffer {δ : Type} [DeviceDriver δ] (size : Nat) (hostVisible : Bool)
    (initial : Option Bytes) : DeviceAction δ Address := do
  let address ←
    if hostVisible then DeviceDriver.allocateHost size .mapped else DeviceDriver.allocate size
  match initial with
  | none => return address
  | some data => fun device =>
    match DeviceDriver.write address 0 (.ofBytes data) device with
    | .ok () device => .ok address device
    | .error cause device =>
      match DeviceDriver.free address device with
      | .ok () device | .error _ device => .error cause device

namespace Host

variable {δ : Type} [DeviceDriver δ]

/-- Gives allocations back, one after the other; what cannot be given back stays. -/
def freePlaces : List (DeviceHandle × Address) → HostAction δ Unit
  | [] => pure ()
  | (device, address) :: rest => do
    attempt (onDevice device .device (DeviceDriver.free address))
    freePlaces rest

/-- The name of a device, if it is live. -/
def deviceName (host : Host δ) (device : DeviceHandle) : String :=
  ((host.registry.devices.get? device).map Device.name).getD ""

/-- Allocates a buffer on devices, one after the other; `places` are the allocations so far. -/
def allocatePlaces (request : BufferRequest) (initial : Option Bytes)
    (places : List (DeviceHandle × Address)) :
    List DeviceHandle → HostAction δ (List (DeviceHandle × Address))
  | [] => pure places
  | device :: rest => fun host =>
    let lift := fun cause : DeviceError => .memAllocation (host.deviceName device) cause.message
    match onDevice device lift
        (allocateBuffer request.size (request.flags.contains .allocHostPtr) initial) host with
    | .ok address host =>
      allocatePlaces request initial (places ++ [(device, address)]) rest host
    | .error error host =>
      match freePlaces places host with
      | .ok () host | .error _ host => .error error host

/-- Makes a buffer on every device of a context. -/
def createBuffer (context : ContextHandle) (request : BufferRequest) :
    HostAction δ BufferHandle := do
  let entry ← check fun host => host.registry.contexts.checked context
  let initial ← check fun _ => request.check
  let places ← allocatePlaces request initial [] entry.devices
  register fun registry =>
    registry.addBuffer { context, size := request.size, flags := request.flags, places }

/-- Asks a buffer. -/
def bufferInfo (buffer : BufferHandle) (query : BufferQuery) : HostAction δ InfoValue :=
  check fun host => do return (← host.registry.buffers.checked buffer).info query

end Host

end ComputeHost
