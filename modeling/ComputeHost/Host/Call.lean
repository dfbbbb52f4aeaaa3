/-
**Calls of a host.**

Every call that a host takes, as a value; `Host.perform` carries it out. A run of a host is a list
of calls, each on the host that the one before left.
-/

import ComputeHost.Host.Context
import ComputeHost.Host.Enumeration
import ComputeHost.Host.Launch
import ComputeHost.Host.Relocation

namespace ComputeHost

/-- A call of a host. -/
inductive Call
  | platformIds
  | platformInfo (platform : PlatformHandle) (query : PlatformQuery)
  | deviceIds (platform : PlatformHandle) (mask : DeviceMask)
  | deviceInfo (device : DeviceHandle) (query : DeviceQuery)
  | createContext (devices : List DeviceHandle) (notify : Bool)
  | contextInfo (context : ContextHandle) (query : ContextQuery)
  | addCollector (context : ContextHandle) (collector : CollectorId) (persistence : Persistence)
  | clearCollectors (context : ContextHandle)
  | createQueue (context : ContextHandle) (device : DeviceHandle) (properties : QueueProperties)
  | queueInfo (queue : QueueHandle) (query : QueueQuery)
  | finish (queue : QueueHandle)
  | flush (queue : QueueHandle)
  | createProgram (context : ContextHandle) (sources : List String)
  | buildProgram (program : ProgramHandle) (devices : Option (List DeviceHandle))
      (options : Option String) (notify : Bool)
  | programInfo (program : ProgramHandle) (query : ProgramQuery)
  | createKernel (program : ProgramHandle) (name : String)
  | setArgument (kernel : KernelHandle) (index : Nat) (value : Bytes)
  | kernelInfo (kernel : KernelHandle) (query : KernelQuery)
  | createBuffer (context : ContextHandle) (request : BufferRequest)
  | bufferInfo (buffer : BufferHandle) (query : BufferQuery)
  | writeBuffer (transfer : Transfer) (data : Bytes)
  | readBuffer (transfer : Transfer) (length : Nat)
  | enqueueKernel (queue : QueueHandle) (kernel : KernelHandle) (range : LaunchRange)
      (waits : WaitList)
  | registerModule (name source : String)
  | unregisterModule (name : String)
  | setOptimization (level : OptimizationLevel)
  | migrateDevice (source target : DeviceHandle)
  | isExecuting

/-- What a call gives when it succeeds. -/
inductive Answer
  | nothing
  | handle {kind : ObjectKind} (handle : Handle kind)
  | handles {kind : ObjectKind} (handles : List (Handle kind))
  | info (value : InfoValue)
  | bytes (data : Bytes)
  | moved (addresses : AddressMap)
  | truth (value : Bool)

namespace Host

variable {δ : Type} [DeviceDriver δ]

/-- An action that gives nothing. -/
def quietly (action : HostAction δ Unit) : HostAction δ Answer := do
  action
  return .nothing

/-- Carries out a call. -/
def perform : Call → HostAction δ Answer
  | .platformIds => .handles <$> platformIds
  | .platformInfo platform query => .info <$> platformInfo platform query
  | .deviceIds platform mask => .handles <$> deviceIds platform mask
  | .deviceInfo device query => .info <$> deviceInfo device query
  | .createContext devices notify => .handle <$> createContext devices notify
  | .contextInfo context query => .info <$> contextInfo context query
  | .addCollector context collector persistence =>
    quietly (addCollector context collector persistence)
  | .clearCollectors context => quietly (clearCollectors context)
  | .createQueue context device properties => .handle <$> createQueue context device properties
  | .queueInfo queue query => .info <$> queueInfo queue query
  | .finish queue => quietly (finish queue)
  | .flush queue => quietly (flush queue)
  | .createProgram context sources => .handle <$> createProgram context sources
  | .buildProgram program devices options notify =>
    quietly (buildProgram program devices options notify)
  | .programInfo program query => .info <$> programInfo program query
  | .createKernel program name => .handle <$> createKernel program name
  | .setArgument kernel index value => quietly (setArgument kernel index value)
  | .kernelInfo kernel query => .info <$> kernelInfo kernel query
  | .createBuffer context request => .handle <$> createBuffer context request
  | .bufferInfo buffer query => .info <$> bufferInfo buffer query
  | .writeBuffer transfer data => quietly (writeBuffer transfer data)
  | .readBuffer transfer length => .bytes <$> readBuffer transfer length
  | .enqueueKernel queue kernel range waits => quietly (enqueueKernel queue kernel range waits)
  | .registerModule name source => quietly (registerModule name source)
  | .unregisterModule name => quietly (unregisterModule name)
  | .setOptimization level => quietly (setOptimization level)
  | .migrateDevice source target => .moved <$> migrateDevice source target
  | .isExecuting => do return .truth (← get).executing

/-- The result of a call and the host after it. -/
def step (call : Call) (host : Host δ) : Except HostError Answer × Host δ :=
  match perform call host with
  | .ok answer host => (.ok answer, host)
  | .error error host => (.error error, host)

/-- The results of calls in order and the host after them. -/
def run : List Call → Host δ → List (Except HostError Answer) × Host δ
  | [], host => ([], host)
  | call :: rest, host =>
    let (result, host) := step call host
    let (results, host) := run rest host
    (result :: results, host)

end Host

end ComputeHost
