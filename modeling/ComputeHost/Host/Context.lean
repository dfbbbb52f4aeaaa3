/-
**Contexts and queues.**

A context is made for different devices of the platform. Collectors are attached to contexts, and a
queue is made for one device of a context.
-/

import ComputeHost.Host.Basic
import ComputeHost.Host.Info

namespace ComputeHost

/-- What can be asked of a context. -/
inductive ContextQuery
  | devices
  | numDevices
  | referenceCount
  deriving DecidableEq

/-- What can be asked of a queue. -/
inductive QueueQuery
  | context
  | device
  | properties
  deriving DecidableEq

/-- The answer of a context. -/
def Context.info (context : Context) : ContextQuery → InfoValue
  | .devices => .devices context.devices
  | .numDevices => .uint (UInt32.ofNat context.devices.length)
  | .referenceCount => .uint 1

/-- The answer of a queue. -/
def Queue.info (queue : Queue) : QueueQuery → InfoValue
  | .context => .context queue.context
  | .device => .device queue.device
  | .properties => .queueProperties queue.properties

namespace Host

variable {δ : Type}

/-! ### Contexts -/

/-- Checks that all handles name devices and that none comes twice; `seen` are those before. -/
def checkDistinct (host : Host δ) (seen : List DeviceHandle) :
    List DeviceHandle → Except HostError Unit
  | [] => .ok ()
  | device :: rest => do
    discard (host.registry.devices.checked device)
    if seen.contains device then throw (.invalidValue "device listed twice")
    host.checkDistinct (device :: seen) rest

/-- Checks the devices of a new context. -/
def checkContext (devices : List DeviceHandle) (notify : Bool) (host : Host δ) :
    Except HostError Unit := do
  if devices.isEmpty then throw (.invalidValue "context needs at least one device")
  host.checkDistinct [] devices
  if notify then throw (.unimplemented "context notification callback")

/-- Makes a context. -/
def createContext (devices : List DeviceHandle) (notify : Bool) : HostAction δ ContextHandle := do
  check (checkContext devices notify)
  register fun registry =>
    let (handle, contexts) := registry.contexts.insert { devices }
    (handle, { registry with contexts })

/-- Asks a context. -/
def contextInfo (context : ContextHandle) (query : ContextQuery) : HostAction δ InfoValue :=
  check fun host => do return (← host.registry.contexts.checked context).info query

/-- Changes a context. -/
def changeContext (handle : ContextHandle) (change : Context → Context) : HostAction δ Unit := do
  discard (check fun host => host.registry.contexts.checked handle)
  register fun registry =>
    ((), { registry with contexts := registry.contexts.modify handle change })

/-- Attaches a collector to a context. -/
def addCollector (context : ContextHandle) (collector : CollectorId) (persistence : Persistence) :
    HostAction δ Unit :=
  changeContext context fun entry => entry.addCollector collector persistence

/-- Detaches all collectors of a context. -/
def clearCollectors (context : ContextHandle) : HostAction δ Unit :=
  changeContext context Context.clearCollectors

/-! ### Queues -/

/-- Checks a new queue. -/
def checkQueue (context : ContextHandle) (device : DeviceHandle) (properties : QueueProperties)
    (host : Host δ) : Except HostError Unit := do
  let entry ← host.registry.contexts.checked context
  discard (host.registry.devices.checked device)
  if !entry.devices.contains device then throw .deviceNotInContext
  if properties.hasUnknown then
    throw (.invalidValue ("unknown queue properties " ++ properties.text))
  if properties.contains .outOfOrder then throw (.unimplemented "out-of-order execution")
  if properties.contains .profiling then throw (.unimplemented "queue profiling")

/-- Makes a queue, with a stream of its own. -/
def createQueue [DeviceDriver δ] (context : ContextHandle) (device : DeviceHandle)
    (properties : QueueProperties) : HostAction δ QueueHandle := do
  check (checkQueue context device properties)
  let stream ← onDevice device (fun cause => .streamCreation cause.message)
    DeviceDriver.createStream
  register fun registry => registry.addQueue { context, device, properties, stream }

/-- Asks a queue. -/
def queueInfo (queue : QueueHandle) (query : QueueQuery) : HostAction δ InfoValue :=
  check fun host => do return (← host.registry.queues.checked queue).info query

/-- Waits for a queue. Every command blocks, so there is nothing to wait for. -/
def finish (queue : QueueHandle) : HostAction δ Unit :=
  check fun host => discard (host.registry.queues.checked queue)

/-- Sends the commands of a queue on their way, where they already are. -/
def flush (queue : QueueHandle) : HostAction δ Unit := finish queue

end Host

end ComputeHost
