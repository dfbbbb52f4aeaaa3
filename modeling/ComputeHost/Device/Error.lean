/-
**Errors of devices and of reading modules.**

Each constructor is a cause; `DeviceError.message` is the one place where causes get their words.
-/

import ComputeHost.Device.Address

namespace ComputeHost

/-- Why a device refused an operation, or why a module text could not be read. -/
inductive DeviceError
  /-- The device was not selected. -/
  | notSelected (device : String)
  /-- The address names no live allocation. -/
  | invalidPointer (address : Address)
  /-- The access leaves the allocation. -/
  | outOfBounds (address : Address) (offset length size : Nat)
  /-- The device has too little memory left. -/
  | outOfMemory (requested available : Nat)
  /-- The module is not loaded on the device. -/
  | moduleNotLoaded (name : String)
  /-- The module has no kernel of that name. -/
  | kernelNotFound (module kernel : String)
  /-- The stream could not be created. -/
  | streamCreation (reason : String)
  /-- The running kernel failed. -/
  | execution (fault : String)
  /-- The module text is not a module. -/
  | parse (module reason : String)
  /-- The device does not do this. -/
  | unsupported (operation : String)
  deriving DecidableEq

namespace DeviceError

/-- The cause in words. -/
def message : DeviceError → String
  | notSelected device => "device '" ++ device ++ "' used without being selected"
  | invalidPointer address => "invalid device pointer: " ++ address.text
  | outOfBounds address offset length size =>
    "access out of bounds: offset " ++ toString offset ++ " + len " ++ toString length ++
      " > allocation size " ++ toString size ++ " at " ++ address.text
  | outOfMemory requested available =>
    "out of device memory: requested " ++ toString requested ++ " bytes, " ++
      toString available ++ " available"
  | moduleNotLoaded name => "module '" ++ name ++ "' is not loaded"
  | kernelNotFound module kernel =>
    "kernel '" ++ kernel ++ "' not found in module '" ++ module ++ "'"
  | streamCreation reason => "failed to create execution stream: " ++ reason
  | execution fault => "execution failure: " ++ fault
  | parse module reason => "failed to parse module '" ++ module ++ "': " ++ reason
  | unsupported operation => "unsupported operation: " ++ operation

/-- Whether a running kernel raised the error, and not the bookkeeping around it. -/
def isExecutionFailure : DeviceError → Bool
  | execution _ => true
  | _ => false

end DeviceError

end ComputeHost
