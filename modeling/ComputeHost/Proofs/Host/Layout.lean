/-
**Laying out parameters.**

The slots of a layout follow each other: none starts before the block, and all end within it
(`le_offset`, `offset_add_le_size`). Pieces that are as long as their slots are put together into a
block that holds each piece in its slot (`slice_assemble`) and zeros elsewhere (`zero_assemble`).
-/

import ComputeHost.Host.Binding
import ComputeHost.Proofs.Device.Memory

namespace ComputeHost

namespace ParameterLayout

variable {position index offset size alignment : Nat} {parameters : List (Nat × Nat)}

theorem offsets_cons (position : Nat) (parameter : Nat × Nat) (rest : List (Nat × Nat)) :
    (layFrom position (parameter :: rest)).offsets =
      roundUp position parameter.2 ::
        (layFrom (roundUp position parameter.2 + parameter.1) rest).offsets := rfl

theorem size_cons (position : Nat) (parameter : Nat × Nat) (rest : List (Nat × Nat)) :
    (layFrom position (parameter :: rest)).size =
      (layFrom (roundUp position parameter.2 + parameter.1) rest).size := rfl

theorem le_size : position ≤ (layFrom position parameters).size := by
  induction parameters generalizing position with
  | nil => exact Nat.le_refl _
  | cons parameter rest ih =>
    have first := le_roundUp position parameter.2
    rw [size_cons]
    exact Nat.le_trans (Nat.le_trans first (Nat.le_add_right _ _)) ih

theorem le_offset (found : (layFrom position parameters).offsets[index]? = some offset) :
    position ≤ offset := by
  induction parameters generalizing position index with
  | nil => cases found
  | cons parameter rest ih =>
    have first := le_roundUp position parameter.2
    cases index with
    | zero =>
      cases found
      exact first
    | succ index =>
      exact Nat.le_trans (Nat.le_trans first (Nat.le_add_right _ _)) (ih found)

/-- Every slot ends within the block. -/
theorem offset_add_le_size (found : (layFrom position parameters).offsets[index]? = some offset)
    (there : parameters[index]? = some (size, alignment)) :
    offset + size ≤ (layFrom position parameters).size := by
  induction parameters generalizing position index with
  | nil => cases found
  | cons parameter rest ih =>
    cases index with
    | zero =>
      cases found
      cases there
      exact le_size
    | succ index => exact ih found there

end ParameterLayout

/-- A piece behind what is already written takes the place of so many zeros. -/
theorem Bytes.splice_zeros {front piece : Bytes} {place count : Nat}
    (after : front.length ≤ place) (within : place + piece.length ≤ front.length + count) :
    (front ++ zeros count).splice place piece =
      front ++ zeros (place - front.length) ++ piece ++
        zeros (front.length + count - (place + piece.length)) := by
  obtain ⟨gap, rfl⟩ := Nat.exists_eq_add_of_le after
  have kept : (front ++ zeros count).take (front.length + gap) = front ++ zeros gap := by
    rw [List.take_length_add_append, zeros, List.take_replicate, Nat.min_eq_left (by omega), zeros]
  have left : (front ++ zeros count).drop (front.length + gap + piece.length) =
      zeros (front.length + count - (front.length + gap + piece.length)) := by
    rw [Nat.add_assoc, List.drop_length_add_append, zeros, List.drop_replicate,
      Nat.add_sub_add_left, zeros]
  rw [splice, kept, left, Nat.add_sub_cancel_left]

namespace Binding

open ParameterLayout

variable {position index offset place : Nat} {parameters : List (Nat × Nat)} {pieces : List Bytes}
  {piece : Bytes}

/-- The first piece stands behind the zeros that fill up its alignment. -/
theorem bytes_assemble_cons (rest : List (Nat × Bytes)) :
    (assemble position ((offset, piece) :: rest)).bytes =
      Bytes.zeros (offset - position) ++ piece ++
        (assemble (offset + piece.length) rest).bytes := by
  rw [assemble, Block.bytes_append, Block.bytes_append, Block.bytes_zeroed, Block.bytes_ofBytes]

/-- A piece and the zeros in front of it reach to the end of its slot. -/
theorem length_zeros_append {start size : Nat} (behind : position ≤ start)
    (long : piece.length = size) :
    (Bytes.zeros (start - position) ++ piece).length = start + size - position := by
  rw [List.length_append, Bytes.zeros_length, long]
  omega

/-- The block is as long as the layout says. -/
theorem length_assemble (lengths : pieces.map List.length = parameters.map Prod.fst) :
    position + (assemble position ((layFrom position parameters).offsets.zip pieces)).bytes.length =
      (layFrom position parameters).size := by
  induction parameters generalizing position pieces with
  | nil =>
    rw [List.map_nil, List.map_eq_nil_iff] at lengths
    subst lengths
    simp [layFrom, assemble]
  | cons parameter rest ih =>
    obtain ⟨piece, others, rfl, long, lengths⟩ := List.map_eq_cons_iff.mp lengths
    have first := le_roundUp position parameter.2
    rw [offsets_cons, size_cons, List.zip_cons_cons, bytes_assemble_cons, long, ← ih lengths]
    simp only [List.length_append, Bytes.zeros_length, long]
    omega

/-- **Every piece stands in its slot.** -/
theorem slice_assemble (lengths : pieces.map List.length = parameters.map Prod.fst)
    (found : (layFrom position parameters).offsets[index]? = some offset)
    (there : pieces[index]? = some piece) :
    (assemble position ((layFrom position parameters).offsets.zip pieces)).bytes.slice
      (offset - position) piece.length = piece := by
  induction parameters generalizing position pieces index with
  | nil => cases found
  | cons parameter rest ih =>
    obtain ⟨head, others, rfl, long, lengths⟩ := List.map_eq_cons_iff.mp lengths
    have first := le_roundUp position parameter.2
    rw [offsets_cons, List.zip_cons_cons, bytes_assemble_cons, long]
    unfold Bytes.slice
    cases index with
    | zero =>
      cases found
      cases there
      rw [List.append_assoc, List.drop_append_of_le_length (by simp),
        List.drop_of_length_le (by simp)]
      simp
    | succ index =>
      have after : roundUp position parameter.2 + parameter.1 ≤ offset := le_offset found
      have later := ih lengths found there
      unfold Bytes.slice at later
      have skipped := length_zeros_append first long
      rw [List.drop_append, List.drop_of_length_le (by omega), skipped, List.nil_append]
      rw [show offset - position - (roundUp position parameter.2 + parameter.1 - position) =
        offset - (roundUp position parameter.2 + parameter.1) by omega]
      exact later

/-- **What is in no slot is zero.** -/
theorem zero_assemble (lengths : pieces.map List.length = parameters.map Prod.fst)
    (start : position ≤ place) (within : place < (layFrom position parameters).size)
    (outside : ∀ (index offset : Nat) (parameter : Nat × Nat),
      (layFrom position parameters).offsets[index]? = some offset →
        parameters[index]? = some parameter → place < offset ∨ offset + parameter.1 ≤ place) :
    (assemble position
      ((layFrom position parameters).offsets.zip pieces)).bytes[place - position]? = some 0 := by
  induction parameters generalizing position pieces with
  | nil => exact absurd within (Nat.not_lt.mpr start)
  | cons parameter rest ih =>
    obtain ⟨head, others, rfl, long, lengths⟩ := List.map_eq_cons_iff.mp lengths
    have first := le_roundUp position parameter.2
    rw [offsets_cons, List.zip_cons_cons, bytes_assemble_cons, long]
    rcases outside 0 _ parameter rfl rfl with before | after
    · rw [List.append_assoc, List.getElem?_append_left (by simp; omega)]
      unfold Bytes.zeros
      rw [List.getElem?_replicate_of_lt (by omega)]
    · have skipped := length_zeros_append first long
      have later := ih lengths after within fun index => outside (index + 1)
      rw [List.getElem?_append_right (by omega), skipped]
      rw [show place - position - (roundUp position parameter.2 + parameter.1 - position) =
        place - (roundUp position parameter.2 + parameter.1) by omega]
      exact later

end Binding

end ComputeHost
