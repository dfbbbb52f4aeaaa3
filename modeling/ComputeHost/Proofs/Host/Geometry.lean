/-
**The sizes of a launch fit in words.**

A range that is accepted has global sizes between one and the largest word; every local size divides
the global size of its dimension, so it is no larger, and neither are the counts of groups. Reading
them as words loses nothing (`words_ofRange`).
-/

import ComputeHost.Host.Geometry
import ComputeHost.Proofs.Action

namespace ComputeHost.Geometry

variable {range : LaunchRange} {geometry : Geometry} {sizes whole : List Nat}

theorem badSize?_eq_none (none_bad : badSize? sizes = none) :
    ∀ size ∈ sizes, 0 < size ∧ size ≤ maxSize := by
  intro size member
  obtain ⟨index, found⟩ := List.mem_iff_getElem?.mp member
  have good := List.find?_eq_none.mp none_bad (size, index)
    (List.mk_mem_zipIdx_iff_getElem?.mpr found)
  simp only [Bool.or_eq_true, beq_iff_eq, decide_eq_true_eq, not_or, Nat.not_lt] at good
  exact ⟨Nat.pos_of_ne_zero good.1, good.2⟩

/-- Local sizes that are accepted divide the global ones. -/
theorem badLocal?_eq_none (none_bad : badLocal? whole sizes = none) {index size : Nat}
    (there : whole[index]? = some size) :
    sizes.getD index 0 ≠ 0 ∧ sizes.getD index 0 ∣ size := by
  have good := List.findSome?_eq_none_iff.mp none_bad (size, index)
    (List.mk_mem_zipIdx_iff_getElem?.mpr there)
  simp only [ite_eq_right_iff, reduceCtorEq, imp_false, Bool.or_eq_true, beq_iff_eq,
    decide_eq_true_eq, not_or, Decidable.not_not] at good
  exact ⟨good.1, Nat.dvd_of_mod_eq_zero good.2⟩

/-- The size that is found bad is the first bad one. -/
theorem badSize?_eq_some {size dimension : Nat} (bad : badSize? sizes = some (size, dimension)) :
    sizes[dimension]? = some size ∧ (size = 0 ∨ maxSize < size) ∧
      ∀ place other, place < dimension → sizes[place]? = some other →
        ¬ (other = 0 ∨ maxSize < other) := by
  unfold badSize? at bad
  obtain ⟨fails, index, within, here, passed⟩ := List.find?_eq_some_iff_getElem.mp bad
  rw [List.getElem_zipIdx, Prod.mk.injEq, Nat.zero_add] at here
  obtain ⟨held, rfl⟩ := here
  rw [List.length_zipIdx] at within
  refine ⟨List.getElem?_eq_some_iff.mpr ⟨within, held⟩, by simpa using fails, ?_⟩
  intro place other before there
  obtain ⟨inside, same⟩ := List.getElem?_eq_some_iff.mp there
  have good := passed place before
  rw [List.getElem_zipIdx, same] at good
  simpa using good

/-- The local size that is found bad is the first bad one. -/
theorem badLocal?_eq_some {dimension part size : Nat}
    (bad : badLocal? whole sizes = some (dimension, part, size)) :
    whole[dimension]? = some size ∧ part = sizes.getD dimension 0 ∧ (part = 0 ∨ ¬ part ∣ size) ∧
      ∀ place other, place < dimension → whole[place]? = some other →
        ¬ (sizes.getD place 0 = 0 ∨ ¬ sizes.getD place 0 ∣ other) := by
  unfold badLocal? at bad
  obtain ⟨front, ⟨held, index⟩, back, parts, found, passed⟩ := List.findSome?_eq_some_iff.mp bad
  have entry : ∀ place : Nat, whole.zipIdx[place]? =
      whole[place]?.map fun other => (other, place) := by
    intro place
    rw [List.getElem?_zipIdx]
    simp
  have here := entry front.length
  rw [parts, List.getElem?_append_right (Nat.le_refl _), Nat.sub_self,
    List.getElem?_cons_zero] at here
  obtain ⟨_, there, same⟩ := Option.map_eq_some_iff.mp here.symm
  cases same
  simp only at found
  split at found
  · rename_i fails
    cases found
    refine ⟨there, rfl, ?_, fun place other before held => ?_⟩
    · rw [Nat.dvd_iff_mod_eq_zero]
      simpa using fails
    · have earlier := entry place
      rw [parts, List.getElem?_append_left before, held] at earlier
      have good := passed _ (List.mem_of_getElem? earlier)
      rw [Nat.dvd_iff_mod_eq_zero]
      simpa using good
  · cases found

/-- A range that does not start at zero has a start that is not zero. -/
theorem startsAtZero_eq_false :
    startsAtZero range = false ↔ ∃ offsets dimension start, range.globalOffset = some offsets ∧
      dimension < range.dimensions ∧ offsets[dimension]? = some start ∧ start ≠ 0 := by
  unfold startsAtZero
  rw [List.all_eq_false]
  constructor
  · rintro ⟨start, among, nonzero⟩
    obtain ⟨dimension, there⟩ := List.mem_iff_getElem?.mp among
    cases given : range.globalOffset with
    | none => simp [given] at there
    | some offsets =>
      rw [given, Option.getD_some, List.getElem?_take] at there
      split at there
      · rename_i within
        exact ⟨offsets, dimension, start, rfl, within, there, by simpa using nonzero⟩
      · cases there
  · rintro ⟨offsets, dimension, start, given, within, there, nonzero⟩
    refine ⟨start, ?_, by simpa using nonzero⟩
    rw [given, Option.getD_some]
    exact List.mem_of_getElem? ((List.getElem?_take_of_lt within).trans there)

/-- The global sizes that are accepted are those of the dimensions. -/
theorem globals_eq_take (accepted : globals range = .ok whole) :
    ∃ given, range.globalSize = some given ∧ whole = given.take range.dimensions := by
  unfold globals at accepted
  split at accepted
  · cases accepted
  · rename_i given found
    split at accepted
    · cases accepted
    · split at accepted
      · cases accepted
      · cases accepted
        exact ⟨given, found, rfl⟩

theorem globals_eq_ok (accepted : globals range = .ok whole) :
    whole.length = range.dimensions ∧ ∀ size ∈ whole, 0 < size ∧ size ≤ maxSize := by
  unfold globals at accepted
  split at accepted
  · cases accepted
  · split at accepted
    · cases accepted
    · rename_i given _ enough
      split at accepted
      · cases accepted
      · rename_i none_bad
        cases accepted
        exact ⟨List.length_take_of_le (Nat.le_of_not_lt enough), badSize?_eq_none none_bad⟩

theorem locals_eq_ok (whole_fits : ∀ size ∈ whole, 0 < size ∧ size ≤ maxSize)
    (length : whole.length = range.dimensions) (accepted : locals range whole = .ok sizes) :
    ∀ size ∈ sizes, size ≤ maxSize := by
  unfold locals at accepted
  split at accepted
  · cases accepted
    exact fun size member => (whole_fits size member).2
  · rename_i given _
    split at accepted
    · cases accepted
    · rename_i none_bad
      cases accepted
      intro size member
      obtain ⟨index, found⟩ := List.mem_iff_getElem?.mp member
      rw [List.getElem?_take] at found
      split at found
      · rename_i within
        have there : whole[index]? = some whole[index] :=
          List.getElem?_eq_getElem (length ▸ within)
        obtain ⟨_, divides⟩ := badLocal?_eq_none none_bad there
        rw [List.getD_eq_getElem?_getD, found, Option.getD_some] at divides
        obtain ⟨positive, small⟩ := whole_fits _ (List.mem_of_getElem? there)
        exact Nat.le_trans (Nat.le_of_dvd positive divides) small
      · cases found

/-- Every size is a word. -/
def Fits (sizes : Vector Nat 3) : Prop := ∀ index (bound : index < 3), sizes[index] ≤ maxSize

theorem fits_pad (small : ∀ size ∈ sizes, size ≤ maxSize) : Fits (pad sizes) := by
  have each : ∀ index, sizes.getD index 1 ≤ maxSize := by
    intro index
    rw [List.getD_eq_getElem?_getD]
    cases found : sizes[index]? with
    | none => decide
    | some size => exact small size (List.mem_of_getElem? found)
  intro index bound
  match index with
  | 0 => exact each 0
  | 1 => exact each 1
  | 2 => exact each 2

theorem fits_groups {whole parts : Vector Nat 3} (small : Fits whole) :
    Fits (whole.zipWith (· / ·) parts) := by
  intro index bound
  rw [Vector.getElem_zipWith]
  exact Nat.le_trans (Nat.div_le_self _ _) (small index bound)

theorem words_of_fits {sizes : Vector Nat 3} (small : Fits sizes) :
    (words sizes).map UInt32.toNat = sizes := by
  apply Vector.ext
  intro index bound
  unfold words
  rw [Vector.getElem_map, Vector.getElem_map]
  have below : sizes[index] < UInt32.size :=
    Nat.lt_of_le_of_lt (small index bound) (by decide)
  exact UInt32.toNat_ofNat_of_lt' below

/-- **The words of an accepted range are its counts of groups and its local sizes.** -/
theorem words_ofRange (accepted : ofRange range = .ok geometry) :
    (words geometry.groups).map UInt32.toNat = geometry.groups ∧
      (words geometry.localSize).map UInt32.toNat = geometry.localSize := by
  unfold ofRange at accepted
  split at accepted
  · cases accepted
  · obtain ⟨whole, found, accepted⟩ := Action.except_bind_eq_ok_iff.mp accepted
    obtain ⟨length, fits⟩ := globals_eq_ok found
    split at accepted
    · obtain ⟨parts, found', same⟩ := Action.except_bind_eq_ok_iff.mp accepted
      cases same
      have whole_fits := fits_pad fun size member => (fits size member).2
      exact ⟨words_of_fits (fits_groups whole_fits),
        words_of_fits (fits_pad (locals_eq_ok fits length found'))⟩
    · cases accepted

end ComputeHost.Geometry
