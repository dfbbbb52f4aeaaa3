/-
**Addresses and streams.**

An address names an allocation on a device and stands in a parameter block as an 8-byte word. A
stream carries the launches of one queue.
-/

import ComputeHost.Bytes
import ComputeHost.Text.Hex

namespace ComputeHost

/-- An address on a device, below `UInt64.size` wherever it is written as a word. -/
structure Address where
  value : Nat
  deriving DecidableEq

namespace Address

/-- How many bytes an address takes in a parameter block. -/
def width : Nat := 8

/-- The address in base 16. -/
def text (address : Address) : String := Text.hex address.value

/-- Reads an address in base 16. -/
def ofText? (text : String) : Option Address := (Text.ofHex? text).map Address.mk

/-- The address as a word, least significant byte first. -/
def toBytes (address : Address) : Bytes := Bytes.littleEndian width address.value

@[simp] theorem toBytes_length (address : Address) : address.toBytes.length = width := by
  simp [toBytes]

end Address

/-- A stream of a device, numbered from 1 in the order of creation. -/
structure StreamId where
  value : Nat
  deriving DecidableEq

end ComputeHost
