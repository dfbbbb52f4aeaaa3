/-
**Transfers.**

Bytes are copied between the host and a buffer, on the device of a queue. Commands neither wait for
events nor give one back, so a list of events is checked and then refused unless it asks for
nothing.
-/

import ComputeHost.Host.Buffer

namespace ComputeHost

/-- The events that a command is to wait for, and whether it is to give one back. -/
structure WaitList where
  count : Nat := 0
  events : Option (List Nat) := none
  wantsEvent : Bool := false

namespace WaitList

/-- Whether the list is as long as it is said to be; a list that is given is not empty. -/
def isConsistent (waits : WaitList) : Bool :=
  match waits.events with
  | none => waits.count == 0
  | some events => waits.count == events.length && !events.isEmpty

/-- Refuses a list that does not agree with its count, and then everything that needs events. -/
def check (waits : WaitList) : Except HostError Unit := do
  if !waits.isConsistent then throw .eventWaitList
  if waits.events.isSome then throw (.unimplemented "event wait lists")
  if waits.wantsEvent then throw (.unimplemented "command events")

end WaitList

/-- What every transfer names. -/
structure Transfer where
  queue : QueueHandle
  buffer : BufferHandle
  blocking : Bool := true
  offset : Nat := 0
  waits : WaitList := {}

namespace Host

variable {δ : Type} [DeviceDriver δ]

/-- Checks a transfer of `length` bytes; gives the device and the address of the buffer there. -/
def transferTarget (transfer : Transfer) (length : Nat) (host : Host δ) :
    Except HostError (DeviceHandle × Address) := do
  let queue ← host.registry.queues.checked transfer.queue
  let buffer ← host.registry.buffers.checked transfer.buffer
  if buffer.context ≠ queue.context then throw (.contextMismatch .buffer)
  if buffer.size < transfer.offset + length then
    throw (.invalidValue
      ("range " ++ toString transfer.offset ++ "+" ++ toString length ++
        " exceeds buffer size " ++ toString buffer.size))
  transfer.waits.check
  if !transfer.blocking then throw (.unimplemented "non-blocking transfers")
  let device ← host.registry.devices.checked queue.device
  match buffer.addressOn? queue.device with
  | some address => return (queue.device, address)
  | none => throw (.memAllocation device.name "buffer has no allocation on the queue's device")

/-- Copies bytes into a buffer. -/
def writeBuffer (transfer : Transfer) (data : Bytes) : HostAction δ Unit := do
  let (device, address) ← check (transferTarget transfer data.length)
  onDevice device .device (DeviceDriver.write address transfer.offset (.ofBytes data))

/-- Copies bytes out of a buffer. -/
def readBuffer (transfer : Transfer) (length : Nat) : HostAction δ Bytes := do
  let (device, address) ← check (transferTarget transfer length)
  Block.bytes <$> onDevice device .device (DeviceDriver.read address transfer.offset length)

end Host

end ComputeHost
