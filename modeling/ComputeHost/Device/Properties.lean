/-
**What a device is.**

The class, capability and limits of a device are fixed when it is made.
-/

namespace ComputeHost

/-- The class of a device. -/
inductive DeviceClass
  /-- A general accelerator. -/
  | gpu
  /-- A device of the host-processor class. -/
  | cpu
  deriving DecidableEq

/-- The name of the class. -/
def DeviceClass.text : DeviceClass → String
  | gpu => "gpu"
  | cpu => "cpu"

/-- A capability level, compared by the major number first. -/
structure Capability where
  major : UInt32
  minor : UInt32
  deriving DecidableEq

namespace Capability

/-- The two numbers with a point between them. -/
def text (capability : Capability) : String :=
  toString capability.major.toNat ++ "." ++ toString capability.minor.toNat

instance : Ord Capability where
  compare first second :=
    (compare first.major second.major).then (compare first.minor second.minor)

end Capability

/-- The description of a device. -/
structure DeviceProperties where
  name : String
  vendor : String
  driverVersion : String
  deviceClass : DeviceClass
  capability : Capability
  computeUnits : UInt32
  maxWorkGroupSize : UInt64
  maxWorkItemSizes : Vector UInt64 3
  globalMemory : UInt64
  addressBits : UInt32

namespace DeviceProperties

/-- How much memory a device has when nothing else is said: 256 MiB. -/
def defaultMemory : UInt64 := 268435456

/-- A general accelerator with the given memory. -/
def gpu (name : String) (globalMemory : UInt64) : DeviceProperties where
  name
  vendor := "Corvid"
  driverVersion := "0.1.0"
  deviceClass := .gpu
  capability := ⟨2, 0⟩
  computeUnits := 16
  maxWorkGroupSize := 1024
  maxWorkItemSizes := #v[1024, 1024, 64]
  globalMemory
  addressBits := 64

/-- A device of the host-processor class: one compute unit and a lower capability. -/
def cpu (name : String) (globalMemory : UInt64) : DeviceProperties :=
  { gpu name globalMemory with deviceClass := .cpu, capability := ⟨1, 0⟩, computeUnits := 1 }

end DeviceProperties

end ComputeHost
