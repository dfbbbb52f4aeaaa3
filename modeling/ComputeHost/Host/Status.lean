/-
**Kinds of objects, status codes and error classes.**

Every host error reduces to a status with a conventional code, and every status to one of five
classes. Codes below -1000 belong to this host alone.
-/

namespace ComputeHost

/-- The kinds of objects that handles name. -/
inductive ObjectKind
  | platform
  | device
  | context
  | program
  | kernel
  | buffer
  | queue
  deriving DecidableEq

/-- The kind in words. -/
def ObjectKind.noun : ObjectKind → String
  | platform => "platform"
  | device => "device"
  | context => "context"
  | program => "program"
  | kernel => "kernel"
  | buffer => "memory object"
  | queue => "command queue"

/-- The broad classes of failure. -/
inductive ErrorClass
  /-- A handle named no live object of its kind. -/
  | invalidHandle
  /-- An argument was out of range or malformed. -/
  | invalidValue
  /-- An object was not in a state for the operation. -/
  | invalidState
  /-- Memory or another resource was exhausted. -/
  | resource
  /-- The request is valid, but nothing carries it out. -/
  | unimplemented
  deriving DecidableEq

/-- Status of a failed call. -/
inductive Status
  | deviceNotFound
  | memObjectAllocationFailure
  | outOfResources
  | outOfHostMemory
  | buildProgramFailure
  | invalidValue
  | invalidDeviceType
  | invalidPlatform
  | invalidDevice
  | invalidContext
  | invalidCommandQueue
  | invalidHostPtr
  | invalidMemObject
  | invalidProgram
  | invalidProgramExecutable
  | invalidKernelName
  | invalidKernel
  | invalidArgIndex
  | invalidArgValue
  | invalidArgSize
  | invalidKernelArgs
  | invalidWorkDimension
  | invalidWorkGroupSize
  | invalidEventWaitList
  | invalidBufferSize
  | invalidGlobalWorkSize
  | launchFailed
  | invalidModule
  | unimplemented
  deriving DecidableEq

namespace Status

/-- The name of the status and its code. -/
def entry : Status → String × Int
  | deviceNotFound => ("DeviceNotFound", -1)
  | memObjectAllocationFailure => ("MemObjectAllocationFailure", -4)
  | outOfResources => ("OutOfResources", -5)
  | outOfHostMemory => ("OutOfHostMemory", -6)
  | buildProgramFailure => ("BuildProgramFailure", -11)
  | invalidValue => ("InvalidValue", -30)
  | invalidDeviceType => ("InvalidDeviceType", -31)
  | invalidPlatform => ("InvalidPlatform", -32)
  | invalidDevice => ("InvalidDevice", -33)
  | invalidContext => ("InvalidContext", -34)
  | invalidCommandQueue => ("InvalidCommandQueue", -36)
  | invalidHostPtr => ("InvalidHostPtr", -37)
  | invalidMemObject => ("InvalidMemObject", -38)
  | invalidProgram => ("InvalidProgram", -44)
  | invalidProgramExecutable => ("InvalidProgramExecutable", -45)
  | invalidKernelName => ("InvalidKernelName", -46)
  | invalidKernel => ("InvalidKernel", -48)
  | invalidArgIndex => ("InvalidArgIndex", -49)
  | invalidArgValue => ("InvalidArgValue", -50)
  | invalidArgSize => ("InvalidArgSize", -51)
  | invalidKernelArgs => ("InvalidKernelArgs", -52)
  | invalidWorkDimension => ("InvalidWorkDimension", -53)
  | invalidWorkGroupSize => ("InvalidWorkGroupSize", -54)
  | invalidEventWaitList => ("InvalidEventWaitList", -57)
  | invalidBufferSize => ("InvalidBufferSize", -61)
  | invalidGlobalWorkSize => ("InvalidGlobalWorkSize", -63)
  | launchFailed => ("LaunchFailed", -1001)
  | invalidModule => ("InvalidModule", -1002)
  | unimplemented => ("Unimplemented", -1003)

/-- The conventional code. -/
def code (status : Status) : Int := status.entry.2

/-- The name with the code behind it. -/
def text (status : Status) : String :=
  status.entry.1 ++ " (" ++ toString status.code ++ ")"

/-- The class of the status. -/
def category : Status → ErrorClass
  | invalidPlatform | invalidDevice | invalidContext | invalidCommandQueue | invalidMemObject
  | invalidProgram | invalidKernel | invalidModule => .invalidHandle
  | deviceNotFound | buildProgramFailure | invalidValue | invalidDeviceType | invalidHostPtr
  | invalidKernelName | invalidArgIndex | invalidArgValue | invalidArgSize | invalidWorkDimension
  | invalidWorkGroupSize | invalidEventWaitList | invalidBufferSize
  | invalidGlobalWorkSize => .invalidValue
  | invalidProgramExecutable | invalidKernelArgs => .invalidState
  | memObjectAllocationFailure | outOfResources | outOfHostMemory | launchFailed => .resource
  | unimplemented => .unimplemented

end Status

/-- The status of a handle that names no live object. -/
def ObjectKind.status : ObjectKind → Status
  | platform => .invalidPlatform
  | device => .invalidDevice
  | context => .invalidContext
  | program => .invalidProgram
  | kernel => .invalidKernel
  | buffer => .invalidMemObject
  | queue => .invalidCommandQueue

end ComputeHost
