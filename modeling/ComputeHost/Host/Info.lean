/-
**Answers to queries.**

Every query gives an `InfoValue`. Its bytes are what a caller with an untyped buffer gets: text
with a NUL behind it, numbers and handles as words, truth values as 32-bit words, lists one item
after the other.

* `copyInto_of_small`, `copyInto_of_large` — a buffer that is too small leaves everything as it
  was; any other gets the bytes in front.
-/

import ComputeHost.Handle
import ComputeHost.Host.Error
import ComputeHost.Host.Flags

namespace ComputeHost

/-- The answer to a query. -/
inductive InfoValue
  | text (value : String)
  | uint (value : UInt32)
  | ulong (value : UInt64)
  | size (value : UInt64)
  | sizes (values : List UInt64)
  | bool (value : Bool)
  | deviceMask (mask : DeviceMask)
  | bufferFlags (flags : BufferFlags)
  | queueProperties (properties : QueueProperties)
  | platform (handle : Handle ObjectKind.platform)
  | device (handle : Handle ObjectKind.device)
  | devices (handles : List (Handle ObjectKind.device))
  | context (handle : Handle ObjectKind.context)
  | program (handle : Handle ObjectKind.program)
  | binaries (values : List Bytes)
  deriving DecidableEq

/-- What became of a copy: its result and the two places it may have written. -/
structure InfoCopy where
  result : Except HostError Unit
  out : Option Bytes
  size : Option Nat

namespace InfoValue

/-- A word of 64 bits, least significant byte first. -/
def word (value : UInt64) : Bytes := Bytes.littleEndian 8 value.toNat

/-- A word of 32 bits, least significant byte first. -/
def halfWord (value : UInt32) : Bytes := Bytes.littleEndian 4 value.toNat

/-- The value as bytes. -/
def toBytes : InfoValue → Bytes
  | text value => Bytes.ofText value ++ [0]
  | uint value => halfWord value
  | ulong value => word value
  | size value => word value
  | sizes values => values.flatMap word
  | bool value => halfWord (if value then 1 else 0)
  | deviceMask mask => word mask.bits
  | bufferFlags flags => word flags.bits
  | queueProperties properties => word properties.bits
  | platform handle => handle.toBytes
  | device handle => handle.toBytes
  | devices handles => handles.flatMap Handle.toBytes
  | context handle => handle.toBytes
  | program handle => handle.toBytes
  | binaries values => values.flatten

/-- Copies the bytes to the front of `out` and their number to `size`, where these are given. A
buffer that is too small is an error, and then nothing is written. -/
def copyInto (value : InfoValue) (out : Option Bytes) (size : Option Nat) : InfoCopy :=
  let bytes := value.toBytes
  let written := size.map fun _ => bytes.length
  match out with
  | none => ⟨.ok (), none, written⟩
  | some buffer =>
    if buffer.length < bytes.length then
      ⟨.error (.invalidValue
        ("info buffer of " ++ toString buffer.length ++ " bytes is smaller than the " ++
          toString bytes.length ++ "-byte value")), some buffer, size⟩
    else ⟨.ok (), some (bytes ++ buffer.drop bytes.length), written⟩

/-- The text of the value, if it is one. -/
def text? : InfoValue → Option String
  | text value => some value
  | _ => none

/-- The number of the value, if it is a single one. -/
def number? : InfoValue → Option Nat
  | uint value => some value.toNat
  | ulong value => some value.toNat
  | size value => some value.toNat
  | _ => none

/-- The sizes of the value, if it is a list of them. -/
def sizes? : InfoValue → Option (List UInt64)
  | sizes values => some values
  | _ => none

/-- The devices of the value, if it is a list of them. -/
def devices? : InfoValue → Option (List (Handle ObjectKind.device))
  | devices handles => some handles
  | _ => none

theorem copyInto_of_large {value : InfoValue} {buffer : Bytes} {size : Option Nat}
    (room : value.toBytes.length ≤ buffer.length) :
    value.copyInto (some buffer) size =
      ⟨.ok (), some (value.toBytes ++ buffer.drop value.toBytes.length),
        size.map fun _ => value.toBytes.length⟩ := by
  simp [copyInto, Nat.not_lt.mpr room]

theorem copyInto_of_small {value : InfoValue} {buffer : Bytes} {size : Option Nat}
    (tight : buffer.length < value.toBytes.length) :
    (value.copyInto (some buffer) size).out = some buffer ∧
      (value.copyInto (some buffer) size).size = size := by
  simp [copyInto, tight]

end InfoValue

end ComputeHost
