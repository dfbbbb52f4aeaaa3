/-
**The bytes of an answer.**

A caller with an untyped buffer knows what kind of answer it has asked for. The kind says how the
bytes are read back, and reading gives the answer. The bytes of binaries have no borders; these come
from the lengths, which are another answer.

* `decode?_toBytes` — the bytes of an answer are read back by its kind.
* `cut_flatten` — cutting at the lengths undoes joining.
* `copyInto_none`, `copyInto_some` — what becomes of the two places of a caller.
-/

import ComputeHost.Host.Info

namespace ComputeHost

/-- The kinds of answers. -/
inductive InfoKind
  | text
  | uint
  | ulong
  | size
  | sizes
  | bool
  | deviceMask
  | bufferFlags
  | queueProperties
  | platform
  | device
  | devices
  | context
  | program
  | binaries
  deriving DecidableEq

namespace InfoValue

/-- The kind of an answer. -/
def kind : InfoValue → InfoKind
  | text _ => .text
  | uint _ => .uint
  | ulong _ => .ulong
  | size _ => .size
  | sizes _ => .sizes
  | bool _ => .bool
  | deviceMask _ => .deviceMask
  | bufferFlags _ => .bufferFlags
  | queueProperties _ => .queueProperties
  | platform _ => .platform
  | device _ => .device
  | devices _ => .devices
  | context _ => .context
  | program _ => .program
  | binaries _ => .binaries

/-! ### Words -/

/-- Reads four bytes, least significant first. -/
def readHalfWord? (bytes : Bytes) : Option UInt32 :=
  if bytes.length = 4 then some (UInt32.ofNat (Bytes.ofLittleEndian bytes)) else none

/-- Reads eight bytes, least significant first. -/
def readWord? (bytes : Bytes) : Option UInt64 :=
  if bytes.length = 8 then some (UInt64.ofNat (Bytes.ofLittleEndian bytes)) else none

/-- Reads words of eight bytes, one after the other. -/
def readWords? (bytes : Bytes) : Option (List UInt64) :=
  if bytes.length = 0 then some []
  else (readWord? (bytes.take 8)).bind fun first => (readWords? (bytes.drop 8)).map (first :: ·)
  termination_by bytes.length
  decreasing_by
    rw [List.length_drop]
    omega

@[simp] theorem word_length (value : UInt64) : (word value).length = 8 :=
  Bytes.littleEndian_length 8 value.toNat

@[simp] theorem readHalfWord?_halfWord (value : UInt32) :
    readHalfWord? (halfWord value) = some value := by
  have fits : value.toNat < Bytes.limit 4 := value.toNat_lt
  have read := Bytes.ofLittleEndian_littleEndian fits
  unfold readHalfWord? halfWord
  rw [if_pos (Bytes.littleEndian_length 4 value.toNat), read, UInt32.ofNat_toNat]

@[simp] theorem readWord?_word (value : UInt64) : readWord? (word value) = some value := by
  have fits : value.toNat < Bytes.limit 8 := value.toNat_lt
  have read := Bytes.ofLittleEndian_littleEndian fits
  unfold readWord?
  rw [if_pos (word_length value)]
  unfold word
  rw [read, UInt64.ofNat_toNat]

@[simp] theorem readWord?_toBytes {κ : Type} {tag : κ} (handle : Handle tag) :
    readWord? handle.toBytes = some handle.toBits :=
  readWord?_word handle.toBits

/-- Words one after the other are read back. -/
@[simp] theorem readWords?_flatMap_word (values : List UInt64) :
    readWords? (values.flatMap word) = some values := by
  induction values with
  | nil =>
    rw [readWords?]
    rfl
  | cons value rest ih =>
    have nonempty : (word value ++ rest.flatMap word).length ≠ 0 := by
      rw [List.length_append, word_length]
      omega
    rw [List.flatMap_cons, readWords?, if_neg nonempty, List.take_left' (word_length value),
      List.drop_left' (word_length value), readWord?_word, ih]
    rfl

/-- The words of handles one after the other. -/
theorem flatMap_toBytes {κ : Type} {tag : κ} (handles : List (Handle tag)) :
    handles.flatMap Handle.toBytes = (handles.map Handle.toBits).flatMap word := by
  rw [List.flatMap_map]
  rfl

/-! ### Text -/

/-- Reads a text with a NUL behind it. -/
def readText? (bytes : Bytes) : Option String :=
  if bytes.getLast? = some 0 then String.fromUTF8? bytes.dropLast.toByteArray else none

/-- The bytes of a text are those of its UTF-8 form. -/
theorem fromUTF8?_ofText (text : String) :
    String.fromUTF8? (Bytes.ofText text).toByteArray = some text := by
  have same : (Bytes.ofText text).toByteArray = text.toByteArray := String.utf8Encode_toList
  unfold String.fromUTF8?
  rw [same, dif_pos text.isValidUTF8]
  rfl

@[simp] theorem readText?_ofText (text : String) :
    readText? (Bytes.ofText text ++ [0]) = some text := by
  unfold readText?
  rw [if_pos List.getLast?_concat, List.dropLast_concat, fromUTF8?_ofText]

end InfoValue

/-! ### Answers -/

/-- Reads the bytes of an answer of the kind. Binaries cannot be told apart by their bytes alone. -/
def InfoKind.decode? : InfoKind → Bytes → Option InfoValue
  | text, bytes => (InfoValue.readText? bytes).map .text
  | uint, bytes => (InfoValue.readHalfWord? bytes).map .uint
  | ulong, bytes => (InfoValue.readWord? bytes).map .ulong
  | size, bytes => (InfoValue.readWord? bytes).map .size
  | sizes, bytes => (InfoValue.readWords? bytes).map .sizes
  | bool, bytes => (InfoValue.readHalfWord? bytes).map fun value => .bool (value != 0)
  | deviceMask, bytes => (InfoValue.readWord? bytes).map fun bits => .deviceMask ⟨bits⟩
  | bufferFlags, bytes => (InfoValue.readWord? bytes).map fun bits => .bufferFlags ⟨bits⟩
  | queueProperties, bytes => (InfoValue.readWord? bytes).map fun bits => .queueProperties ⟨bits⟩
  | platform, bytes => (InfoValue.readWord? bytes).map fun bits => .platform (.ofBits bits)
  | device, bytes => (InfoValue.readWord? bytes).map fun bits => .device (.ofBits bits)
  | devices, bytes => (InfoValue.readWords? bytes).map fun words => .devices (words.map .ofBits)
  | context, bytes => (InfoValue.readWord? bytes).map fun bits => .context (.ofBits bits)
  | program, bytes => (InfoValue.readWord? bytes).map fun bits => .program (.ofBits bits)
  | binaries, _ => none

namespace InfoValue

/-- **The bytes of an answer are read back by its kind**, unless the answer is binaries. -/
theorem decode?_toBytes {value : InfoValue} (bordered : value.kind ≠ .binaries) :
    value.kind.decode? value.toBytes = some value := by
  cases value with
  | binaries values => exact absurd rfl bordered
  | bool value => cases value <;> simp [kind, InfoKind.decode?, toBytes]
  | devices handles =>
    have same : Handle.ofBits ∘ Handle.toBits = (id : Handle ObjectKind.device → _) :=
      funext Handle.ofBits_toBits
    simp [kind, InfoKind.decode?, toBytes, flatMap_toBytes, same]
  | _ => simp [kind, InfoKind.decode?, toBytes]

/-! ### Borders -/

/-- Cuts off pieces of the given lengths, one after the other. -/
def cut : List Nat → Bytes → List Bytes
  | [], _ => []
  | length :: rest, bytes => bytes.take length :: cut rest (bytes.drop length)

/-- **Cutting at the lengths undoes joining.** -/
theorem cut_flatten (pieces : List Bytes) :
    cut (pieces.map List.length) pieces.flatten = pieces := by
  induction pieces with
  | nil => rfl
  | cons piece rest ih =>
    rw [List.map_cons, List.flatten_cons, cut, List.take_left, List.drop_left, ih]

/-! ### The two places of a caller -/

/-- Without a buffer, the size is all that is asked for. -/
theorem copyInto_none (value : InfoValue) (size : Option Nat) :
    value.copyInto none size = ⟨.ok (), none, size.map fun _ => value.toBytes.length⟩ := rfl

/-- The answer was copied: it is in front of the buffer, with what was there behind it, and its size
is in the place for that. -/
structure Copied (value : InfoValue) (out : Bytes) (size : Option Nat) (copy : InfoCopy) :
    Prop where
  size : copy.size = size.map fun _ => value.toBytes.length
  out : ∃ written, copy.out = some written ∧ written.length = out.length ∧
    written.take value.toBytes.length = value.toBytes ∧
    written.drop value.toBytes.length = out.drop value.toBytes.length ∧
    (value.kind ≠ .binaries →
      value.kind.decode? (written.take value.toBytes.length) = some value)

/-- Nothing was copied, and both places are as they were. -/
structure Withheld (out : Bytes) (size : Option Nat) (copy : InfoCopy) : Prop where
  size : copy.size = size
  out : copy.out = some out
  result : ∃ message, copy.result = .error (.invalidValue message)

theorem copied_of_large {value : InfoValue} {out : Bytes} (size : Option Nat)
    (room : value.toBytes.length ≤ out.length) :
    Copied value out size (value.copyInto (some out) size) := by
  rw [copyInto_of_large room]
  refine ⟨rfl, _, rfl, ?_, List.take_left, List.drop_left, fun bordered => ?_⟩
  · rw [List.length_append, List.length_drop]
    omega
  · rw [List.take_left]
    exact decode?_toBytes bordered

theorem withheld_of_small {value : InfoValue} {out : Bytes} (size : Option Nat)
    (tight : out.length < value.toBytes.length) :
    Withheld out size (value.copyInto (some out) size) := by
  have kept : (value.copyInto (some out) size).out = some out ∧
      (value.copyInto (some out) size).size = size := copyInto_of_small tight
  refine ⟨kept.2, kept.1, ?_⟩
  unfold copyInto
  simp only [if_pos tight]
  exact ⟨_, rfl⟩

end InfoValue

end ComputeHost
