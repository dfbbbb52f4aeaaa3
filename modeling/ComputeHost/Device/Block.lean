/-
**Blocks of memory.**

A block has a fixed size and starts as zeros. It is kept in pieces, bytes as they were written and
zeros that are only counted, so that a large block costs nothing where it is not used.
`Block.bytes` is what the block holds, and every operation is described on it.

* `bytes_zeroed`, `bytes_ofBytes`, `bytes_append`, `bytes_take`, `bytes_drop` — the same operations
  on lists of bytes.
* `bytes_read` — reading gives the asked range of `bytes`.
* `bytes_write` — writing replaces exactly the written range of `bytes`.
-/

import ComputeHost.Bytes

namespace ComputeHost

/-- A piece of a block. -/
inductive Piece
  /-- Bytes as they were written. -/
  | data (bytes : Bytes)
  /-- So many zeros. -/
  | zeros (count : Nat)
  deriving DecidableEq

namespace Piece

/-- What the piece holds. -/
def bytes : Piece → Bytes
  | data bytes => bytes
  | zeros count => Bytes.zeros count

/-- How many bytes the piece holds. -/
def size : Piece → Nat
  | data bytes => bytes.length
  | zeros count => count

/-- The first `count` bytes of the piece. -/
def take (count : Nat) : Piece → Piece
  | data bytes => data (bytes.take count)
  | zeros size => zeros (min count size)

/-- The piece without its first `count` bytes. -/
def drop (count : Nat) : Piece → Piece
  | data bytes => data (bytes.drop count)
  | zeros size => zeros (size - count)

@[simp] theorem bytes_length (piece : Piece) : piece.bytes.length = piece.size := by
  cases piece <;> simp [bytes, size]

@[simp] theorem bytes_take (count : Nat) (piece : Piece) :
    (piece.take count).bytes = piece.bytes.take count := by
  cases piece <;> simp [bytes, take, Bytes.zeros]

@[simp] theorem bytes_drop (count : Nat) (piece : Piece) :
    (piece.drop count).bytes = piece.bytes.drop count := by
  cases piece <;> simp [bytes, drop, Bytes.zeros]

/-- How many bytes pieces hold together. -/
def sizeOfAll : List Piece → Nat
  | [] => 0
  | piece :: rest => piece.size + sizeOfAll rest

/-- The first `count` bytes of pieces that follow each other. -/
def takeFrom (count : Nat) : List Piece → List Piece
  | [] => []
  | piece :: rest =>
    if count = 0 then []
    else if count < piece.size then [piece.take count]
    else piece :: takeFrom (count - piece.size) rest

/-- Pieces that follow each other without their first `count` bytes. -/
def dropFrom (count : Nat) : List Piece → List Piece
  | [] => []
  | piece :: rest =>
    if count < piece.size then piece.drop count :: rest else dropFrom (count - piece.size) rest

theorem length_flatMap (pieces : List Piece) :
    (pieces.flatMap bytes).length = sizeOfAll pieces := by
  induction pieces with
  | nil => rfl
  | cons piece rest ih => simp [sizeOfAll, ih]

theorem flatMap_takeFrom (count : Nat) (pieces : List Piece) :
    (takeFrom count pieces).flatMap bytes = (pieces.flatMap bytes).take count := by
  induction pieces generalizing count with
  | nil => simp [takeFrom]
  | cons piece rest ih =>
    rw [takeFrom]
    split
    · simp_all
    · split
      · rename_i inside
        have none : count - piece.size = 0 := by omega
        simp [List.take_append, none]
      · rename_i beyond
        have all : piece.bytes.take count = piece.bytes := List.take_of_length_le (by simp; omega)
        simp [List.take_append, ih, all]

theorem flatMap_dropFrom (count : Nat) (pieces : List Piece) :
    (dropFrom count pieces).flatMap bytes = (pieces.flatMap bytes).drop count := by
  induction pieces generalizing count with
  | nil => simp [dropFrom]
  | cons piece rest ih =>
    rw [dropFrom]
    split
    · rename_i inside
      have none : count - piece.size = 0 := by omega
      simp [List.drop_append, none]
    · rename_i beyond
      have all : piece.bytes.drop count = [] := List.drop_of_length_le (by simp; omega)
      simp [List.drop_append, ih, all]

end Piece

/-- Memory of a fixed size. -/
structure Block where
  /-- What the block holds, from the start on. -/
  pieces : List Piece
  deriving DecidableEq

namespace Block

/-- A block of zeros. -/
def zeroed (size : Nat) : Block := ⟨[.zeros size]⟩

/-- A block of the given bytes. -/
def ofBytes (bytes : Bytes) : Block := ⟨[.data bytes]⟩

/-- What the block holds. -/
def bytes (block : Block) : Bytes := block.pieces.flatMap Piece.bytes

/-- How many bytes the block holds. -/
def size (block : Block) : Nat := Piece.sizeOfAll block.pieces

instance : Append Block := ⟨fun front back => ⟨front.pieces ++ back.pieces⟩⟩

/-- The first `count` bytes of the block. -/
def take (count : Nat) (block : Block) : Block := ⟨Piece.takeFrom count block.pieces⟩

/-- The block without its first `count` bytes. -/
def drop (count : Nat) (block : Block) : Block := ⟨Piece.dropFrom count block.pieces⟩

/-- A range of the block, or nothing if the range leaves it. -/
def read? (block : Block) (offset length : Nat) : Option Block :=
  if offset + length ≤ block.size then some ((block.drop offset).take length) else none

/-- The block with `data` written at `offset`, or nothing if the range leaves the block. -/
def write? (block : Block) (offset : Nat) (data : Block) : Option Block :=
  if offset + data.size ≤ block.size then
    some (block.take offset ++ data ++ block.drop (offset + data.size))
  else none

/-! ### The operations on the contents -/

@[simp] theorem bytes_length (block : Block) : block.bytes.length = block.size :=
  Piece.length_flatMap block.pieces

@[simp] theorem bytes_zeroed (size : Nat) : (zeroed size).bytes = Bytes.zeros size := by
  simp [bytes, zeroed, Piece.bytes]

@[simp] theorem bytes_ofBytes (contents : Bytes) : (ofBytes contents).bytes = contents := by
  simp [bytes, ofBytes, Piece.bytes]

@[simp] theorem bytes_append (front back : Block) :
    (front ++ back).bytes = front.bytes ++ back.bytes := List.flatMap_append

@[simp] theorem bytes_take (count : Nat) (block : Block) :
    (block.take count).bytes = block.bytes.take count :=
  Piece.flatMap_takeFrom count block.pieces

@[simp] theorem bytes_drop (count : Nat) (block : Block) :
    (block.drop count).bytes = block.bytes.drop count :=
  Piece.flatMap_dropFrom count block.pieces

@[simp] theorem size_zeroed (size : Nat) : (zeroed size).size = size := by
  rw [← bytes_length, bytes_zeroed, Bytes.zeros_length]

@[simp] theorem size_ofBytes (contents : Bytes) : (ofBytes contents).size = contents.length := by
  rw [← bytes_length, bytes_ofBytes]

theorem read?_eq_none_iff {block : Block} {offset length : Nat} :
    block.read? offset length = none ↔ block.size < offset + length := by
  simp [read?]

theorem bytes_read {block range : Block} {offset length : Nat}
    (done : block.read? offset length = some range) :
    range.bytes = (block.bytes.drop offset).take length := by
  rw [read?] at done
  split at done
  · cases done
    simp
  · cases done

theorem write?_eq_none_iff {block data : Block} {offset : Nat} :
    block.write? offset data = none ↔ block.size < offset + data.size := by
  simp [write?]

theorem bytes_write {block data written : Block} {offset : Nat}
    (done : block.write? offset data = some written) :
    written.bytes =
      block.bytes.take offset ++ data.bytes ++ block.bytes.drop (offset + data.size) := by
  rw [write?] at done
  split at done
  · cases done
    simp
  · cases done

theorem size_write {block data written : Block} {offset : Nat}
    (done : block.write? offset data = some written) : written.size = block.size := by
  have within : ¬ block.size < offset + data.size := by
    rw [← write?_eq_none_iff, done]
    simp
  rw [← bytes_length, bytes_write done]
  simp
  omega

end Block

end ComputeHost
