/-
**Bytes and words.**

Memory, parameter blocks and query results are lists of bytes; integers enter them least
significant byte first.

* `littleEndian_length` — a word of a given width has that many bytes.
* `ofLittleEndian_littleEndian` — a number that fits the width is read back.
* `littleEndian_ofLittleEndian` — every list of bytes is the word of the number it denotes.
* `ofLittleEndian_lt_limit` — and that number fits its width.
-/

namespace ComputeHost

/-- A run of bytes. -/
abbrev Bytes := List UInt8

namespace Bytes

/-- The `width` low bytes of `value`, least significant first. -/
def littleEndian : (width value : Nat) → Bytes
  | 0, _ => []
  | width + 1, value => UInt8.ofNat (value % 256) :: littleEndian width (value / 256)

/-- The number whose least significant byte comes first. -/
def ofLittleEndian : Bytes → Nat
  | [] => 0
  | byte :: rest => byte.toNat + 256 * ofLittleEndian rest

/-- The least number that needs more than `width` bytes. -/
def limit : (width : Nat) → Nat
  | 0 => 1
  | width + 1 => 256 * limit width

/-- So many zero bytes. -/
def zeros (count : Nat) : Bytes := List.replicate count 0

/-- The bytes of a text in UTF-8. -/
def ofText (text : String) : Bytes := text.toList.flatMap String.utf8EncodeChar

@[simp] theorem littleEndian_length (width value : Nat) :
    (littleEndian width value).length = width := by
  induction width generalizing value with
  | zero => rfl
  | succ width ih => simp [littleEndian, ih]

theorem ofLittleEndian_littleEndian {width value : Nat} (fits : value < limit width) :
    ofLittleEndian (littleEndian width value) = value := by
  induction width generalizing value with
  | zero => simp_all [littleEndian, ofLittleEndian, limit]
  | succ width ih =>
    have quotient : value / 256 < limit width := by
      rw [limit] at fits
      omega
    have low : (UInt8.ofNat (value % 256)).toNat = value % 256 := by simp
    simp only [littleEndian, ofLittleEndian, ih quotient, low]
    omega

theorem littleEndian_ofLittleEndian (bytes : Bytes) :
    littleEndian bytes.length (ofLittleEndian bytes) = bytes := by
  induction bytes with
  | nil => rfl
  | cons byte rest ih =>
    have small : byte.toNat < 256 := byte.toNat_lt
    have low : (byte.toNat + 256 * ofLittleEndian rest) % 256 = byte.toNat := by omega
    have high : (byte.toNat + 256 * ofLittleEndian rest) / 256 = ofLittleEndian rest := by omega
    simp [littleEndian, ofLittleEndian, low, high, ih]

theorem ofLittleEndian_lt_limit (bytes : Bytes) : ofLittleEndian bytes < limit bytes.length := by
  induction bytes with
  | nil => decide
  | cons byte rest ih =>
    have small : byte.toNat < 256 := byte.toNat_lt
    rw [ofLittleEndian, List.length_cons, limit]
    omega

@[simp] theorem zeros_length (count : Nat) : (zeros count).length = count := by simp [zeros]

end Bytes

end ComputeHost
