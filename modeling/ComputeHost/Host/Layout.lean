/-
**Parameter layout.**

The arguments of a kernel stand in one block, each at the first multiple of its alignment after
the argument before it.

* `layFrom_length` — one offset per parameter.
* `le_roundUp`, `dvd_roundUp`, `roundUp_le` — rounding up gives the least multiple that is not
  below.
-/

import ComputeHost.Module.Signature

namespace ComputeHost

/-- Where the parameters of a kernel are in its block. -/
structure ParameterLayout where
  offsets : List Nat
  /-- The size of the block. -/
  size : Nat
  deriving DecidableEq

namespace ParameterLayout

/-- The least multiple of `alignment` that is not below `position`; an alignment of 0 counts as
1. -/
def roundUp (position alignment : Nat) : Nat :=
  (position + (max alignment 1 - 1)) / max alignment 1 * max alignment 1

/-- The layout of parameters, given by size and alignment, in a block that is already `position`
bytes long. -/
def layFrom (position : Nat) : List (Nat × Nat) → ParameterLayout
  | [] => ⟨[], position⟩
  | (size, alignment) :: rest =>
    let offset := roundUp position alignment
    let layout := layFrom (offset + size) rest
    ⟨offset :: layout.offsets, layout.size⟩

/-- The layout of parameters, given by size and alignment. -/
def compute (parameters : List (Nat × Nat)) : ParameterLayout := layFrom 0 parameters

/-- The layout of the parameters of a kernel. -/
def ofSignature (signature : KernelSignature) : ParameterLayout :=
  compute (signature.parameters.map fun parameter => (parameter.size, parameter.alignment))

theorem le_roundUp (position alignment : Nat) : position ≤ roundUp position alignment := by
  have positive : 0 < max alignment 1 := by omega
  have division := Nat.div_add_mod (position + (max alignment 1 - 1)) (max alignment 1)
  have remainder := Nat.mod_lt (position + (max alignment 1 - 1)) positive
  rw [Nat.mul_comm] at division
  rw [roundUp]
  omega

theorem dvd_roundUp (position alignment : Nat) :
    max alignment 1 ∣ roundUp position alignment := Nat.dvd_mul_left _ _

theorem roundUp_le {position alignment bound : Nat} (after : position ≤ bound)
    (multiple : max alignment 1 ∣ bound) : roundUp position alignment ≤ bound := by
  obtain ⟨count, rfl⟩ := multiple
  have positive : 0 < max alignment 1 := by omega
  rw [roundUp, Nat.mul_comm _ count]
  refine Nat.mul_le_mul_right _ ?_
  rw [← Nat.lt_add_one_iff, Nat.div_lt_iff_lt_mul positive, Nat.add_mul, Nat.mul_comm count]
  omega

@[simp] theorem layFrom_length (position : Nat) (parameters : List (Nat × Nat)) :
    (layFrom position parameters).offsets.length = parameters.length := by
  induction parameters generalizing position with
  | nil => rfl
  | cons parameter rest ih => simp [layFrom, ih]

end ParameterLayout

end ComputeHost
