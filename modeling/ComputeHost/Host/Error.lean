/-
**Errors of host calls.**

An error is the first constraint that a call violated. `HostError.message` gives it words,
`HostError.status` its status and `HostError.category` its class.
-/

import ComputeHost.Device.Error
import ComputeHost.Host.Status

namespace ComputeHost

/-- Why a host call failed. -/
inductive HostError
  /-- The handle names no live object of the kind. -/
  | invalidHandle (kind : ObjectKind)
  /-- The device is not one of the context's. -/
  | deviceNotInContext
  /-- Objects of two contexts were combined. -/
  | contextMismatch (kind : ObjectKind)
  | invalidValue (reason : String)
  /-- No device is of a requested class. -/
  | deviceNotFound (mask : Nat)
  | invalidDeviceType (mask : Nat)
  | invalidHostPtr (reason : String)
  | invalidBufferSize (size : Nat)
  /-- Memory for a buffer or a parameter block could not be had. -/
  | memAllocation (device reason : String)
  | streamCreation (reason : String)
  /-- The text of a module could not be read. -/
  | buildFailure (module reason : String)
  | programNotBuilt
  | kernelNotFound (name : String)
  | argIndex (index count : Nat)
  | argValue (index : Nat)
  | argSize (index expected actual : Nat)
  | kernelArgs (bound declared : Nat)
  | workDimension (dimension : Nat)
  | globalWorkSize (reason : String)
  | workGroupSize (dimension localSize globalSize : Nat)
  | eventWaitList
  /-- The kernel failed while it was running. -/
  | launchFailed (kernel fault : String)
  | moduleExists (name : String)
  | moduleNotFound (name : String)
  | unimplemented (feature : String)
  /-- The device refused for a reason of its own. -/
  | device (cause : DeviceError)
  deriving DecidableEq

namespace HostError

/-- The error in words. -/
def message : HostError → String
  | invalidHandle kind => "invalid " ++ kind.noun ++ " handle"
  | deviceNotInContext => "device is not part of the context"
  | contextMismatch kind => kind.noun ++ " belongs to a different context"
  | invalidValue reason => "invalid value: " ++ reason
  | deviceNotFound mask => "no device matches type mask " ++ Text.hex mask
  | invalidDeviceType mask => "invalid device type mask " ++ Text.hex mask
  | invalidHostPtr reason => "invalid host pointer: " ++ reason
  | invalidBufferSize size => "invalid buffer size " ++ toString size
  | memAllocation name reason => "memory allocation failed on '" ++ name ++ "': " ++ reason
  | streamCreation reason => "failed to create command queue stream: " ++ reason
  | buildFailure module reason => "build of module '" ++ module ++ "' failed: " ++ reason
  | programNotBuilt => "program is not built for the requested device"
  | kernelNotFound name => "kernel '" ++ name ++ "' not found in program"
  | argIndex index count =>
    "argument index " ++ toString index ++ " out of range (" ++ toString count ++ " parameters)"
  | argValue index => "argument " ++ toString index ++ " has no value"
  | argSize index expected actual =>
    "argument " ++ toString index ++ " is " ++ toString actual ++ " bytes, parameter expects " ++
      toString expected
  | kernelArgs bound declared =>
    toString bound ++ " arguments bound, kernel declares " ++ toString declared
  | workDimension dimension => "work dimension " ++ toString dimension ++ " not in 1..=3"
  | globalWorkSize reason => "invalid global work size: " ++ reason
  | workGroupSize dimension localSize globalSize =>
    "local size " ++ toString localSize ++ " does not divide global size " ++
      toString globalSize ++ " in dimension " ++ toString dimension
  | eventWaitList => "event wait list does not match its count"
  | launchFailed kernel fault => "launch of '" ++ kernel ++ "' failed: " ++ fault
  | moduleExists name => "module '" ++ name ++ "' is already registered"
  | moduleNotFound name => "module '" ++ name ++ "' is not registered"
  | unimplemented feature => "not implemented: " ++ feature
  | device cause => cause.message

/-- The status of the error. -/
def status : HostError → Status
  | invalidHandle kind => kind.status
  | deviceNotInContext => .invalidDevice
  | contextMismatch _ => .invalidContext
  | invalidValue _ | moduleExists _ => .invalidValue
  | deviceNotFound _ => .deviceNotFound
  | invalidDeviceType _ => .invalidDeviceType
  | invalidHostPtr _ => .invalidHostPtr
  | invalidBufferSize _ => .invalidBufferSize
  | memAllocation .. => .memObjectAllocationFailure
  | streamCreation _ => .outOfResources
  | buildFailure .. => .buildProgramFailure
  | programNotBuilt => .invalidProgramExecutable
  | kernelNotFound _ => .invalidKernelName
  | argIndex .. => .invalidArgIndex
  | argValue _ => .invalidArgValue
  | argSize .. => .invalidArgSize
  | kernelArgs .. => .invalidKernelArgs
  | workDimension _ => .invalidWorkDimension
  | globalWorkSize _ => .invalidGlobalWorkSize
  | workGroupSize .. => .invalidWorkGroupSize
  | eventWaitList => .invalidEventWaitList
  | launchFailed .. => .launchFailed
  | moduleNotFound _ => .invalidModule
  | unimplemented _ => .unimplemented
  | device _ => .outOfHostMemory

/-- The class of the error. -/
def category (error : HostError) : ErrorClass := error.status.category

end HostError

end ComputeHost
