/-
**Handles: names of objects that live in arenas.**

A handle holds the index of a slot and the generation that the slot had when the object was put
there. It travels as a 64-bit word, the generation in the upper half.

* `ofBits_toBits`, `toBits_ofBits` — handles and 64-bit words determine each other.
-/

import ComputeHost.Bytes

namespace ComputeHost

/-- Names an object of the kind `tag`: a slot and a generation of that slot. The tag keeps handles
of different kinds apart and takes no part in the value. -/
@[ext]
structure Handle {κ : Type} (tag : κ) where
  index : UInt32
  generation : UInt32
  deriving DecidableEq

namespace Handle

variable {κ : Type} {tag : κ}

/-- The handle as one word: generation above, index below. -/
def toBits (handle : Handle tag) : UInt64 :=
  UInt64.ofNat (handle.generation.toNat * UInt32.size + handle.index.toNat)

/-- Reads any word as a handle; whether it names an object is for an arena to say. -/
def ofBits (bits : UInt64) : Handle tag where
  index := UInt32.ofNat (bits.toNat % UInt32.size)
  generation := UInt32.ofNat (bits.toNat / UInt32.size)

/-- The word of the handle, least significant byte first. -/
def toBytes (handle : Handle tag) : Bytes := Bytes.littleEndian 8 handle.toBits.toNat

/-- Written as index, `v`, generation. -/
def text (handle : Handle tag) : String :=
  toString handle.index.toNat ++ "v" ++ toString handle.generation.toNat

/-- Reads index, `v`, generation; numbers that are no words have no handle. -/
def ofText? (text : String) : Option (Handle tag) :=
  match text.splitOn "v" with
  | [index, generation] => do
    let index ← index.toNat?
    let generation ← generation.toNat?
    if index < UInt32.size && generation < UInt32.size then
      some ⟨UInt32.ofNat index, UInt32.ofNat generation⟩
    else none
  | _ => none

/-- The text of the handle after the name of what it refers to. -/
def labelled (label : String) (handle : Handle tag) : String := label ++ "#" ++ handle.text

theorem toNat_toBits (handle : Handle tag) :
    handle.toBits.toNat = handle.generation.toNat * UInt32.size + handle.index.toNat := by
  have index := handle.index.toNat_lt
  have generation := handle.generation.toNat_lt
  simp only [toBits, UInt64.toNat_ofNat', UInt32.size]
  omega

@[simp] theorem ofBits_toBits (handle : Handle tag) : ofBits handle.toBits = handle := by
  have index := handle.index.toNat_lt
  have low : (handle.generation.toNat * UInt32.size + handle.index.toNat) % UInt32.size =
      handle.index.toNat := by rw [UInt32.size]; omega
  have high : (handle.generation.toNat * UInt32.size + handle.index.toNat) / UInt32.size =
      handle.generation.toNat := by rw [UInt32.size]; omega
  rw [ofBits, toNat_toBits, low, high, UInt32.ofNat_toNat, UInt32.ofNat_toNat]

@[simp] theorem toBits_ofBits (bits : UInt64) : (ofBits bits : Handle tag).toBits = bits := by
  have small := bits.toNat_lt
  apply UInt64.toNat_inj.mp
  simp only [toNat_toBits, ofBits, UInt32.toNat_ofNat', UInt32.size]
  omega

@[simp] theorem toBytes_length (handle : Handle tag) : handle.toBytes.length = 8 := by
  simp [toBytes]

end Handle

end ComputeHost
