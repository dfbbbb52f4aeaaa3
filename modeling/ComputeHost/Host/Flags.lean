/-
**Flag words.**

Buffers, queues and the search for devices take words of flags. A word is refused when it has bits
that no flag uses.
-/

import ComputeHost.Device.Properties
import ComputeHost.Text.Hex

namespace ComputeHost

/-! ### Buffers -/

/-- Flags of a buffer. -/
structure BufferFlags where
  bits : UInt64
  deriving DecidableEq

namespace BufferFlags

def readWrite : BufferFlags := ⟨1⟩

def writeOnly : BufferFlags := ⟨2⟩

def readOnly : BufferFlags := ⟨4⟩

/-- The buffer is to use memory of the host. -/
def useHostPtr : BufferFlags := ⟨8⟩

/-- The buffer is to be visible to the host. -/
def allocHostPtr : BufferFlags := ⟨16⟩

/-- The buffer starts with a copy of bytes of the host. -/
def copyHostPtr : BufferFlags := ⟨32⟩

instance : OrOp BufferFlags where
  or first second := ⟨first.bits ||| second.bits⟩

/-- Whether every flag of `other` is set. -/
def contains (flags other : BufferFlags) : Bool := flags.bits &&& other.bits == other.bits

/-- Whether a bit is set that is no flag. -/
def hasUnknown (flags : BufferFlags) : Bool := 64 ≤ flags.bits

/-- How many of the three ways of access are chosen. -/
def accessCount (flags : BufferFlags) : Nat :=
  [readWrite, writeOnly, readOnly].countP flags.contains

/-- The flags in a message. -/
def text (flags : BufferFlags) : String := "MemFlags(" ++ Text.hex flags.bits.toNat ++ ")"

end BufferFlags

/-! ### Queues -/

/-- Properties of a queue. -/
structure QueueProperties where
  bits : UInt64
  deriving DecidableEq

namespace QueueProperties

/-- The queue may change the order of commands. -/
def outOfOrder : QueueProperties := ⟨1⟩

/-- The queue measures its commands. -/
def profiling : QueueProperties := ⟨2⟩

instance : OrOp QueueProperties where
  or first second := ⟨first.bits ||| second.bits⟩

/-- Whether every property of `other` is set. -/
def contains (properties other : QueueProperties) : Bool :=
  properties.bits &&& other.bits == other.bits

/-- Whether a bit is set that is no property. -/
def hasUnknown (properties : QueueProperties) : Bool := 4 ≤ properties.bits

/-- The properties in a message. -/
def text (properties : QueueProperties) : String :=
  "QueueProperties(" ++ Text.hex properties.bits.toNat ++ ")"

end QueueProperties

/-! ### Devices -/

/-- The classes of devices that are searched for. -/
structure DeviceMask where
  bits : UInt64
  deriving DecidableEq

namespace DeviceMask

/-- The first device of the platform. -/
def first : DeviceMask := ⟨1⟩

def cpu : DeviceMask := ⟨2⟩

def gpu : DeviceMask := ⟨4⟩

def accelerator : DeviceMask := ⟨8⟩

/-- Devices of every class. -/
def all : DeviceMask := ⟨0xFFFFFFFF⟩

instance : OrOp DeviceMask where
  or first second := ⟨first.bits ||| second.bits⟩

/-- Whether a bit of `other` is set. -/
def meets (mask other : DeviceMask) : Bool := mask.bits &&& other.bits != 0

/-- Whether some class is asked for, and nothing but classes unless it is all of them. -/
def isValid (mask : DeviceMask) : Bool :=
  mask.meets (first ||| cpu ||| gpu ||| accelerator) && (mask == all || mask.bits < 16)

/-- The mask of a class. -/
def ofClass : DeviceClass → DeviceMask
  | .gpu => gpu
  | .cpu => cpu

/-- Whether devices of the class are asked for. -/
def matchesClass (mask : DeviceMask) (deviceClass : DeviceClass) : Bool :=
  mask == all || mask.meets (ofClass deviceClass)

end DeviceMask

end ComputeHost
