/-
**The least layout.**

Parameters can be placed in a block in many ways: each at a multiple of its alignment, and none
before the end of the one in front of it (`Places`). The layout that is computed is the least of
them. Any other starts no parameter earlier and ends no earlier, so nothing is wasted, and where a
parameter stands depends only on those in front of it.

* `places_cons_iff` — a first offset, and places for the rest behind the first parameter.
* `layFrom_le` — no places are before those that are computed.
* `layFrom_append` — the layout of more parameters goes on where that of the first ends.
* `compute_least` — all of it for a whole block.
-/

import ComputeHost.Host.Layout
import Mathlib.Data.List.Chain
import Mathlib.Data.List.Forall2

namespace ComputeHost.ParameterLayout

variable {position later offset size alignment : Nat} {parameters rest : List (Nat × Nat)}
  {offsets : List Nat}

/-! ### Places for parameters -/

/-- A slot ends where the next begins, or before. -/
def Precedes (slot next : Nat × Nat) : Prop := slot.1 + slot.2 ≤ next.1

instance : Trans Precedes Precedes Precedes where
  trans {first second third} before after := by
    unfold Precedes at *
    omega

/-- Where each parameter begins, and how long it is. -/
def slots (parameters : List (Nat × Nat)) (offsets : List Nat) : List (Nat × Nat) :=
  offsets.zip (parameters.map Prod.fst)

/-- Where the last of the slots ends; without slots, where the block began. -/
def finish (position : Nat) (slots : List (Nat × Nat)) : Nat :=
  (slots.getLast?.map fun slot => slot.1 + slot.2).getD position

/-- The offsets place the parameters in a block that is already `position` bytes long. -/
structure Places (position : Nat) (parameters : List (Nat × Nat)) (offsets : List Nat) : Prop where
  /-- There is one offset per parameter, a multiple of the alignment. -/
  aligned : List.Forall₂ (fun offset parameter => max parameter.2 1 ∣ offset) offsets parameters
  /-- No parameter begins before the end of the one in front of it. -/
  ordered : ((position, 0) :: slots parameters offsets).IsChain Precedes

theorem finish_cons (position : Nat) (slot : Nat × Nat) (others : List (Nat × Nat)) :
    finish position (slot :: others) = finish (slot.1 + slot.2) others := by
  unfold finish
  rw [List.getLast?_cons]
  cases others.getLast? <;> rfl

/-- What follows a slot is what follows its end. -/
theorem isChain_slot_iff {others : List (Nat × Nat)} :
    ((offset, size) :: others).IsChain Precedes ↔
      ((offset + size, 0) :: others).IsChain Precedes := by
  rw [List.isChain_cons, List.isChain_cons]
  rfl

theorem places_nil : Places position [] [] := ⟨.nil, .singleton _⟩

theorem places_cons_iff :
    Places position ((size, alignment) :: rest) offsets ↔
      ∃ offset others, offsets = offset :: others ∧ max alignment 1 ∣ offset ∧
        position ≤ offset ∧ Places (offset + size) rest others := by
  constructor
  · rintro ⟨aligned, ordered⟩
    obtain ⟨offset, others, multiple, behind, rfl⟩ := List.forall₂_cons_right_iff.mp aligned
    obtain ⟨after, ordered⟩ := List.isChain_cons_cons.mp ordered
    exact ⟨offset, others, rfl, multiple, after, behind, isChain_slot_iff.mp ordered⟩
  · rintro ⟨offset, others, rfl, multiple, after, behind⟩
    exact ⟨.cons multiple behind.aligned,
      List.isChain_cons_cons.mpr ⟨after, isChain_slot_iff.mpr behind.ordered⟩⟩

/-- Slots in order have no byte in common. -/
theorem Places.apart (places : Places position parameters offsets) :
    (slots parameters offsets).Pairwise Precedes :=
  (List.isChain_iff_pairwise.mp places.ordered).of_cons

/-! ### The places that are computed -/

theorem places_layFrom : Places position parameters (layFrom position parameters).offsets := by
  induction parameters generalizing position with
  | nil => exact places_nil
  | cons parameter rest ih =>
    exact places_cons_iff.mpr ⟨_, _, rfl, dvd_roundUp _ _, le_roundUp _ _, ih⟩

/-- The block ends with its last parameter. -/
theorem size_layFrom (position : Nat) (parameters : List (Nat × Nat)) :
    (layFrom position parameters).size =
      finish position (slots parameters (layFrom position parameters).offsets) := by
  induction parameters generalizing position with
  | nil => rfl
  | cons parameter rest ih =>
    have last := finish_cons position (roundUp position parameter.2, parameter.1)
      (slots rest (layFrom (roundUp position parameter.2 + parameter.1) rest).offsets)
    exact (ih _).trans last.symm

/-- **No places are before those that are computed**, not even in a block that begins later. -/
theorem layFrom_le (begins : position ≤ later) (places : Places later parameters offsets) :
    List.Forall₂ (· ≤ ·) (layFrom position parameters).offsets offsets ∧
      (layFrom position parameters).size ≤ finish later (slots parameters offsets) := by
  induction parameters generalizing position later offsets with
  | nil =>
    obtain rfl := List.forall₂_nil_right_iff.mp places.aligned
    exact ⟨.nil, begins⟩
  | cons parameter rest ih =>
    obtain ⟨offset, others, rfl, multiple, after, behind⟩ := places_cons_iff.mp places
    have first : roundUp position parameter.2 ≤ offset :=
      roundUp_le (Nat.le_trans begins after) multiple
    obtain ⟨starts, ends⟩ := ih (Nat.add_le_add_right first parameter.1) behind
    refine ⟨.cons first starts, Nat.le_trans ends (Nat.le_of_eq ?_)⟩
    exact (finish_cons later (offset, parameter.1) (slots rest others)).symm

/-- More parameters leave those in front of them where they are. -/
theorem layFrom_append (position : Nat) (parameters more : List (Nat × Nat)) :
    (layFrom position (parameters ++ more)).offsets =
      (layFrom position parameters).offsets ++
        (layFrom (layFrom position parameters).size more).offsets := by
  induction parameters generalizing position with
  | nil => rfl
  | cons parameter rest ih => exact congrArg (_ :: ·) (ih _)

/-! ### Whole blocks -/

/-- **The layout of parameters is the least.** It places every parameter at a multiple of its
alignment, behind the one in front of it, and the block ends with the last. Whatever else places the
parameters starts none of them earlier and ends no earlier. So more parameters leave those in front
where they are, and no two parameters share a byte. -/
theorem compute_least (parameters : List (Nat × Nat)) :
    (compute parameters).offsets.length = parameters.length ∧
    Places 0 parameters (compute parameters).offsets ∧
    (compute parameters).size = finish 0 (slots parameters (compute parameters).offsets) ∧
    (∀ offsets, Places 0 parameters offsets →
      List.Forall₂ (· ≤ ·) (compute parameters).offsets offsets ∧
        (compute parameters).size ≤ finish 0 (slots parameters offsets)) ∧
    (∀ more, (compute parameters).offsets <+: (compute (parameters ++ more)).offsets) ∧
    (slots parameters (compute parameters).offsets).Pairwise Precedes :=
  ⟨layFrom_length 0 parameters, places_layFrom, size_layFrom 0 parameters,
    fun _ places => layFrom_le (Nat.le_refl 0) places,
    fun more => ⟨_, (layFrom_append 0 parameters more).symm⟩, places_layFrom.apart⟩

/-- A byte, six bytes in steps of three and four bytes in steps of four: the second parameter can
start later than in the least layout, and this time the block is no longer for it. -/
theorem compute_least_uneven :
    compute [(1, 0), (6, 3), (4, 4)] = ⟨[0, 3, 12], 16⟩ ∧
    Places 0 [(1, 0), (6, 3), (4, 4)] [0, 6, 12] ∧
    List.Forall₂ (· ≤ ·) (compute [(1, 0), (6, 3), (4, 4)]).offsets [0, 6, 12] ∧
    (compute [(1, 0), (6, 3), (4, 4)]).size ≤ 16 := by
  have places : Places 0 [(1, 0), (6, 3), (4, 4)] [0, 6, 12] := by
    refine ⟨by simp, ?_⟩
    simp [slots, Precedes]
  obtain ⟨-, -, -, least, -⟩ := compute_least [(1, 0), (6, 3), (4, 4)]
  obtain ⟨starts, ends⟩ := least _ places
  exact ⟨by decide, places, starts, ends⟩

end ComputeHost.ParameterLayout
