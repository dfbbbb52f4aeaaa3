/-
**Which ranges a launch may have, and what becomes of them.**

A range is acceptable (`LaunchRange.Acceptable`) if it has one to three dimensions, a global size of
at least one and at most the largest word in each of them, no start but zero, and, where it gives
local sizes, one in each dimension that divides the global size. What it gives beyond its dimensions
does not matter (`ofRange_congr`).

* `ofRange_eq_ok_iff` — exactly the acceptable ranges have a geometry, and which.
* `Normalized` — what the three dimensions of a geometry are.
* `ofRange_normalizes` — every range is refused or normalized.
-/

import ComputeHost.Performance
import ComputeHost.Proofs.Host.Geometry
import Mathlib.Algebra.BigOperators.Group.List.Basic
import Mathlib.Algebra.Order.BigOperators.Group.List
import Mathlib.Algebra.Order.Ring.Nat
import Mathlib.Tactic.Ring

namespace ComputeHost

namespace LaunchRange

/-- The range without what it gives beyond its dimensions. -/
def trimmed (range : LaunchRange) : LaunchRange where
  dimensions := range.dimensions
  globalOffset := range.globalOffset.map (List.take range.dimensions)
  globalSize := range.globalSize.map (List.take range.dimensions)
  localSize := range.localSize.map (List.take range.dimensions)

/-- A range that a launch may have. -/
structure Acceptable (range : LaunchRange) : Prop where
  dimensions : range.dimensions = 1 ∨ range.dimensions = 2 ∨ range.dimensions = 3
  /-- There is a global size for every dimension, and it is a word other than zero. -/
  globals : ∃ sizes, range.globalSize = some sizes ∧ ∀ index < range.dimensions,
    ∃ size, sizes[index]? = some size ∧ 1 ≤ size ∧ size < UInt32.size
  /-- The range starts at zero in every dimension. -/
  offsets : ∀ offsets, range.globalOffset = some offsets → ∀ index < range.dimensions,
    ∀ start, offsets[index]? = some start → start = 0
  /-- If there are local sizes, there is one for every dimension, and it divides the global size. -/
  locals : ∀ parts, range.localSize = some parts → ∀ index < range.dimensions,
    ∃ part, parts[index]? = some part ∧ part ≠ 0 ∧
      ∀ sizes size, range.globalSize = some sizes → sizes[index]? = some size → part ∣ size

/-- The global sizes of the dimensions. -/
def wholes (range : LaunchRange) : List Nat := (range.globalSize.getD []).take range.dimensions

/-- The local sizes of the dimensions: the global ones where none are given. -/
def parts (range : LaunchRange) : List Nat :=
  (range.localSize.map (List.take range.dimensions)).getD range.wholes

end LaunchRange

namespace Geometry

variable {range : LaunchRange} {geometry : Geometry} {whole sizes : List Nat} {index : Nat}

/-! ### What is given beyond the dimensions -/

theorem globals_trimmed (range : LaunchRange) : globals range.trimmed = globals range := by
  unfold globals LaunchRange.trimmed
  cases range.globalSize with
  | none => rfl
  | some given =>
    simp only [Option.map_some, List.length_take, List.take_take, Nat.min_self]
    by_cases few : given.length < range.dimensions
    · rw [if_pos few, if_pos (by omega), Nat.min_eq_right (Nat.le_of_lt few)]
    · rw [if_neg few, if_neg (by omega)]

theorem startsAtZero_trimmed (range : LaunchRange) :
    startsAtZero range.trimmed = startsAtZero range := by
  unfold startsAtZero LaunchRange.trimmed
  cases range.globalOffset with
  | none => rfl
  | some given => simp only [Option.map_some, Option.getD_some, List.take_take, Nat.min_self]

/-- Local sizes are compared where there are global ones only. -/
theorem badLocal?_take {count : Nat} (enough : whole.length ≤ count) :
    badLocal? whole (sizes.take count) = badLocal? whole sizes := by
  unfold badLocal?
  rw [← List.head?_filterMap, ← List.head?_filterMap]
  refine congrArg List.head? (List.filterMap_congr fun (size, index) member => ?_)
  have there := List.mk_mem_zipIdx_iff_getElem?.mp member
  have within : index < count :=
    Nat.lt_of_lt_of_le (List.getElem?_eq_some_iff.mp there).choose enough
  simp only [List.getD_eq_getElem?_getD, List.getElem?_take_of_lt within]

theorem locals_trimmed (range : LaunchRange) (enough : whole.length ≤ range.dimensions) :
    locals range.trimmed whole = locals range whole := by
  unfold locals LaunchRange.trimmed
  cases range.localSize with
  | none => rfl
  | some given =>
    simp only [Option.map_some, badLocal?_take enough, List.take_take, Nat.min_self]

theorem ofRange_trimmed (range : LaunchRange) : ofRange range.trimmed = ofRange range := by
  unfold ofRange
  rw [globals_trimmed, startsAtZero_trimmed]
  cases found : globals range with
  | error error => rfl
  | ok whole =>
    have length := (globals_eq_ok found).1
    simp only [Action.except_bind_of_ok rfl, locals_trimmed range (Nat.le_of_eq length)]
    rfl

/-- **What is given beyond the dimensions does not matter.** -/
theorem ofRange_congr {other : LaunchRange} (same : other.trimmed = range.trimmed) :
    ofRange other = ofRange range := by
  rw [← ofRange_trimmed, same, ofRange_trimmed]

/-! ### The acceptable ranges -/

theorem badSize?_eq_none_iff :
    badSize? sizes = none ↔ ∀ size ∈ sizes, 1 ≤ size ∧ size < UInt32.size := by
  have bounds : ∀ size, 1 ≤ size ∧ size < UInt32.size ↔ 0 < size ∧ size ≤ maxSize := by
    intro size
    unfold maxSize UInt32.size
    omega
  simp only [bounds]
  refine ⟨badSize?_eq_none, fun fit => List.find?_eq_none.mpr fun (size, index) member => ?_⟩
  obtain ⟨positive, small⟩ := fit size
    (List.mem_of_getElem? (List.mk_mem_zipIdx_iff_getElem?.mp member))
  simp only [Bool.or_eq_true, beq_iff_eq, decide_eq_true_eq, not_or, Nat.not_lt]
  exact ⟨Nat.ne_of_gt positive, small⟩

theorem badLocal?_eq_none_iff :
    badLocal? whole sizes = none ↔ ∀ (index size : Nat), whole[index]? = some size →
      ∃ part, sizes[index]? = some part ∧ part ≠ 0 ∧ part ∣ size := by
  constructor
  · intro none_bad index size there
    obtain ⟨nonzero, divides⟩ := badLocal?_eq_none none_bad there
    rw [List.getD_eq_getElem?_getD] at nonzero divides
    cases found : sizes[index]? with
    | none => simp [found] at nonzero
    | some part =>
      rw [found] at nonzero divides
      exact ⟨part, rfl, nonzero, divides⟩
  · intro fit
    refine List.findSome?_eq_none_iff.mpr fun (size, index) member => ?_
    obtain ⟨part, found, nonzero, divides⟩ :=
      fit index size (List.mk_mem_zipIdx_iff_getElem?.mp member)
    simp [found, nonzero, Nat.mod_eq_zero_of_dvd divides]

theorem globals_eq_ok_iff :
    globals range = .ok whole ↔
      (∃ given, range.globalSize = some given ∧ ∀ index < range.dimensions,
        ∃ size, given[index]? = some size ∧ 1 ≤ size ∧ size < UInt32.size) ∧
      whole = range.wholes := by
  constructor
  · intro accepted
    obtain ⟨given, found, rfl⟩ := globals_eq_take accepted
    obtain ⟨length, fits⟩ := globals_eq_ok accepted
    refine ⟨⟨given, found, fun index within => ?_⟩, by rw [LaunchRange.wholes, found]; rfl⟩
    have there := List.getElem?_eq_getElem (length ▸ within)
    obtain ⟨positive, small⟩ := fits _ (List.mem_of_getElem? there)
    rw [List.getElem?_take_of_lt within] at there
    exact ⟨_, there, positive, Nat.lt_of_le_of_lt small (by decide)⟩
  · rintro ⟨⟨given, found, fit⟩, rfl⟩
    have enough : ¬ given.length < range.dimensions := by
      intro few
      obtain ⟨size, there, -⟩ := fit given.length few
      rw [List.getElem?_eq_none (Nat.le_refl _)] at there
      cases there
    have none_bad : badSize? (given.take range.dimensions) = none := by
      refine badSize?_eq_none_iff.mpr fun size member => ?_
      obtain ⟨index, there⟩ := List.mem_iff_getElem?.mp member
      rw [List.getElem?_take] at there
      split at there
      · rename_i within
        obtain ⟨other, same, bounds⟩ := fit index within
        cases there.symm.trans same
        exact bounds
      · cases there
    unfold globals LaunchRange.wholes
    simp only [found, if_neg enough, none_bad, Option.getD_some]

theorem startsAtZero_eq_true_iff :
    startsAtZero range = true ↔ ∀ offsets, range.globalOffset = some offsets →
      ∀ index < range.dimensions, ∀ start, offsets[index]? = some start → start = 0 := by
  rw [← Bool.not_eq_false, startsAtZero_eq_false]
  constructor
  · intro clear offsets given index within start there
    by_contra nonzero
    exact clear ⟨offsets, index, start, given, within, there, nonzero⟩
  · rintro zero ⟨offsets, index, start, given, within, there, nonzero⟩
    exact nonzero (zero offsets given index within start there)

/-- The local sizes that go with global sizes of all dimensions. -/
theorem locals_eq_ok_iff :
    locals range whole = .ok sizes ↔
      (∀ (parts : List Nat), range.localSize = some parts → ∀ index size : Nat,
        whole[index]? = some size → ∃ part, parts[index]? = some part ∧ part ≠ 0 ∧ part ∣ size) ∧
      sizes = (range.localSize.map (List.take range.dimensions)).getD whole := by
  unfold locals
  cases range.localSize with
  | none => simp [eq_comm]
  | some given =>
    simp only [Option.some.injEq, forall_eq', Option.map_some, Option.getD_some,
      ← badLocal?_eq_none_iff]
    cases badLocal? whole given with
    | none => simp [eq_comm]
    | some found => simp

/-- An acceptable range has all its local sizes. -/
theorem locals_of_acceptable (acceptable : range.Acceptable) :
    locals range range.wholes = .ok range.parts := by
  refine locals_eq_ok_iff.mpr ⟨fun parts given index size there => ?_, rfl⟩
  obtain ⟨sizes, found, -⟩ := acceptable.globals
  rw [LaunchRange.wholes, found, Option.getD_some, List.getElem?_take] at there
  split at there
  · rename_i within
    obtain ⟨part, here, nonzero, divides⟩ := acceptable.locals parts given index within
    exact ⟨part, here, nonzero, divides sizes size found there⟩
  · cases there

/-- **Exactly the acceptable ranges have a geometry.** -/
theorem ofRange_eq_ok_iff :
    ofRange range = .ok geometry ↔
      range.Acceptable ∧ geometry = ofSizes range.dimensions range.wholes range.parts := by
  have dimensions : (range.dimensions = 0 || maxDimensions < range.dimensions) = true ↔
      ¬ (range.dimensions = 1 ∨ range.dimensions = 2 ∨ range.dimensions = 3) := by
    simp only [Bool.or_eq_true, decide_eq_true_eq]
    unfold maxDimensions
    omega
  unfold ofRange
  constructor
  · intro accepted
    split at accepted
    · cases accepted
    · rename_i in_range
      obtain ⟨whole, found, accepted⟩ := Action.except_bind_eq_ok_iff.mp accepted
      split at accepted
      · rename_i at_zero
        obtain ⟨parts, found', same⟩ := Action.except_bind_eq_ok_iff.mp accepted
        cases same
        have length := (globals_eq_ok found).1
        obtain ⟨given, rfl⟩ := globals_eq_ok_iff.mp found
        obtain ⟨fit, rfl⟩ := locals_eq_ok_iff.mp found'
        refine ⟨⟨Decidable.not_not.mp (dimensions.not.mp in_range), given,
          startsAtZero_eq_true_iff.mp at_zero, fun parts listed index within => ?_⟩, rfl⟩
        obtain ⟨part, here, nonzero, divides⟩ :=
          fit parts listed index _ (List.getElem?_eq_getElem (length ▸ within))
        refine ⟨part, here, nonzero, fun sizes size known there => ?_⟩
        have taken : range.wholes[index]? = some size := by
          rw [LaunchRange.wholes, known, Option.getD_some, List.getElem?_take_of_lt within, there]
        rwa [← (List.getElem?_eq_some_iff.mp taken).choose_spec]
      · cases accepted
  · rintro ⟨acceptable, rfl⟩
    rw [if_neg (dimensions.not.mpr (Decidable.not_not.mpr acceptable.dimensions)),
      globals_eq_ok_iff.mpr ⟨acceptable.globals, rfl⟩, Action.except_bind_of_ok rfl,
      if_pos (startsAtZero_eq_true_iff.mpr acceptable.offsets), locals_of_acceptable acceptable]
    rfl

/-! ### The three dimensions of a geometry -/

theorem pad_getElem (bound : index < 3) : (pad sizes)[index] = sizes.getD index 1 :=
  match index with
  | 0 => rfl
  | 1 => rfl
  | 2 => rfl

theorem take_getD_of_le {count : Nat} (beyond : count ≤ index) :
    (sizes.take count).getD index 1 = 1 := by
  rw [List.getD_eq_getElem?_getD, List.getElem?_take, if_neg (Nat.not_lt.mpr beyond),
    Option.getD_none]

theorem take_getD_of_lt {count : Nat} (within : index < count) :
    (sizes.take count).getD index 1 = sizes.getD index 1 := by
  rw [List.getD_eq_getElem?_getD, List.getElem?_take_of_lt within, List.getD_eq_getElem?_getD]

theorem wholes_of_some (given : range.globalSize = some sizes) :
    range.wholes = sizes.take range.dimensions := by
  rw [LaunchRange.wholes, given, Option.getD_some]

theorem parts_of_some (given : range.localSize = some sizes) :
    range.parts = sizes.take range.dimensions := by
  rw [LaunchRange.parts, given, Option.map_some, Option.getD_some]

theorem parts_of_none (absent : range.localSize = none) : range.parts = range.wholes := by
  rw [LaunchRange.parts, absent, Option.map_none, Option.getD_none]

/-- Beyond the dimensions of a range there are only ones. -/
theorem sizes_of_le (beyond : range.dimensions ≤ index) :
    range.wholes.getD index 1 = 1 ∧ range.parts.getD index 1 = 1 := by
  have wholes : range.wholes.getD index 1 = 1 := take_getD_of_le beyond
  refine ⟨wholes, ?_⟩
  cases given : range.localSize with
  | none => rw [parts_of_none given, wholes]
  | some parts => rw [parts_of_some given, take_getD_of_le beyond]

/-- The sizes of an acceptable range in every dimension. -/
theorem sizes_of_acceptable (acceptable : range.Acceptable) (index : Nat) :
    range.parts.getD index 1 ∣ range.wholes.getD index 1 ∧
      1 ≤ range.wholes.getD index 1 ∧ range.wholes.getD index 1 < UInt32.size := by
  rcases Nat.lt_or_ge index range.dimensions with within | beyond
  · obtain ⟨sizes, known, fit⟩ := acceptable.globals
    obtain ⟨size, there, bounds⟩ := fit index within
    have whole : range.wholes.getD index 1 = size := by
      rw [wholes_of_some known, take_getD_of_lt within, List.getD_eq_getElem?_getD, there,
        Option.getD_some]
    rw [whole]
    refine ⟨?_, bounds⟩
    cases given : range.localSize with
    | none => rw [parts_of_none given, whole]
    | some parts =>
      obtain ⟨part, here, -, divides⟩ := acceptable.locals parts given index within
      rw [parts_of_some given, take_getD_of_lt within, List.getD_eq_getElem?_getD, here,
        Option.getD_some]
      exact divides sizes size known there
  · obtain ⟨whole, part⟩ := sizes_of_le beyond
    rw [whole, part]
    decide

/-- The product of the sizes. -/
def volume (sizes : Vector Nat 3) : Nat := sizes.toList.prod

/-- All sizes are words other than zero, and one beyond the dimensions. -/
def Sized (dimensions : Nat) (sizes : Vector Nat 3) : Prop :=
  ∀ index (bound : index < 3), 1 ≤ sizes[index] ∧ sizes[index] < UInt32.size ∧
    (dimensions ≤ index → sizes[index] = 1)

/-- What becomes of a range that a launch may have. -/
structure Normalized (range : LaunchRange) (geometry : Geometry) : Prop where
  dimensions : geometry.dimensions = range.dimensions
  /-- The global sizes are the given ones. -/
  globalSize : ∀ sizes, range.globalSize = some sizes → ∀ index (bound : index < 3),
    index < range.dimensions → sizes[index]? = some geometry.globalSize[index]
  /-- So are the local sizes, if there are any. -/
  localSize : ∀ sizes, range.localSize = some sizes → ∀ index (bound : index < 3),
    index < range.dimensions → sizes[index]? = some geometry.localSize[index]
  /-- Without local sizes there is one group. -/
  undivided : range.localSize = none → geometry.localSize = geometry.globalSize
  /-- The groups make up the whole. -/
  exact : ∀ index (bound : index < 3),
    geometry.globalSize[index] = geometry.localSize[index] * geometry.groups[index]
  sized : ∀ sizes ∈ [geometry.globalSize, geometry.localSize, geometry.groups],
    Sized range.dimensions sizes
  /-- Read as words they are the same. -/
  words : ∀ sizes ∈ [geometry.globalSize, geometry.localSize, geometry.groups],
    (words sizes).map UInt32.toNat = sizes
  /-- The words count the work items, as a launch's summary and its event do. -/
  workItems : volume geometry.globalSize < UInt64.size →
    (∀ device module kernel, LaunchSummary.workItems
      ⟨device, module, kernel, Geometry.words geometry.groups, Geometry.words geometry.localSize⟩ =
        volume geometry.globalSize) ∧
    ∀ kernel duration, Performance.Event.ofLaunch kernel (Geometry.words geometry.groups)
      (Geometry.words geometry.localSize) duration =
        .launch kernel (Geometry.words geometry.groups) (Geometry.words geometry.localSize)
          (volume geometry.globalSize) duration
  /-- No product on the way to that number is too large for 64 bits. -/
  inBounds : volume geometry.globalSize < UInt64.size → ∀ counts,
    counts <+: (Geometry.words geometry.groups).toList ++
      (Geometry.words geometry.localSize).toList →
    counts.foldl (fun product count => product * count.toNat) 1 < UInt64.size

theorem toList_three (sizes : Vector Nat 3) : sizes.toList = [sizes[0], sizes[1], sizes[2]] := by
  obtain ⟨⟨sizes⟩, length⟩ := sizes
  match sizes, length with
  | [_, _, _], _ => rfl

/-- Groups that make up the whole have its volume. -/
theorem prod_of_exact {whole parts groups : Vector Nat 3}
    (exact : ∀ index (bound : index < 3), whole[index] = parts[index] * groups[index]) :
    (groups.toList ++ parts.toList).prod = volume whole := by
  rw [volume, toList_three whole, toList_three parts, toList_three groups, exact 0, exact 1,
    exact 2]
  simp only [List.cons_append, List.nil_append, List.prod_cons, List.prod_nil]
  ring

theorem foldl_eq_prod (counts : List UInt32) :
    counts.foldl (fun product count => product * count.toNat) 1 =
      (counts.map UInt32.toNat).prod := by
  rw [List.prod_eq_foldl, List.foldl_map]

/-- The words of sizes that fit count what the sizes do. -/
theorem prod_words {groups parts : Vector Nat 3}
    (groups_fit : (words groups).map UInt32.toNat = groups)
    (parts_fit : (words parts).map UInt32.toNat = parts) :
    (((words groups).toList ++ (words parts).toList).map UInt32.toNat).prod =
      (groups.toList ++ parts.toList).prod := by
  rw [List.map_append, ← Vector.toList_map, ← Vector.toList_map, groups_fit, parts_fit]

/-- A product of numbers other than zero only grows with further ones. -/
theorem foldl_le_of_prefix {front counts : List UInt32} (begins : front <+: counts)
    (nonzero : ∀ count ∈ counts, 1 ≤ count.toNat) :
    front.foldl (fun product count => product * count.toNat) 1 ≤
      (counts.map UInt32.toNat).prod := by
  rw [foldl_eq_prod]
  refine (begins.sublist.map UInt32.toNat).prod_le_prod' fun number member => ?_
  obtain ⟨count, among, rfl⟩ := List.mem_map.mp member
  exact nonzero count among

/-- The sizes and counts of an acceptable range. -/
theorem ofSizes_getElem (range : LaunchRange) (bound : index < 3) :
    (ofSizes range.dimensions range.wholes range.parts).globalSize[index] =
        range.wholes.getD index 1 ∧
      (ofSizes range.dimensions range.wholes range.parts).localSize[index] =
        range.parts.getD index 1 ∧
      (ofSizes range.dimensions range.wholes range.parts).groups[index] =
        range.wholes.getD index 1 / range.parts.getD index 1 := by
  refine ⟨pad_getElem bound, pad_getElem bound, ?_⟩
  unfold ofSizes
  rw [Vector.getElem_zipWith, pad_getElem bound, pad_getElem bound]

/-- The sizes and counts of an acceptable range are words other than zero. -/
theorem sized_of_acceptable (acceptable : range.Acceptable) :
    ∀ sizes ∈ [(ofSizes range.dimensions range.wholes range.parts).globalSize,
        (ofSizes range.dimensions range.wholes range.parts).localSize,
        (ofSizes range.dimensions range.wholes range.parts).groups],
      Sized range.dimensions sizes := by
  intro sizes member index bound
  obtain ⟨globals, locals, groups⟩ := ofSizes_getElem range bound
  obtain ⟨divides, positive, small⟩ := sizes_of_acceptable acceptable index
  have below := Nat.le_of_dvd positive divides
  have part_positive := Nat.pos_of_dvd_of_pos divides positive
  simp only [List.mem_cons, List.not_mem_nil, or_false] at member
  rcases member with rfl | rfl | rfl
  · rw [globals]
    exact ⟨positive, small, fun beyond => (sizes_of_le beyond).1⟩
  · rw [locals]
    exact ⟨part_positive, Nat.lt_of_le_of_lt below small, fun beyond => (sizes_of_le beyond).2⟩
  · rw [groups]
    refine ⟨Nat.div_pos below part_positive, Nat.lt_of_le_of_lt (Nat.div_le_self _ _) small,
      fun beyond => ?_⟩
    obtain ⟨whole, part⟩ := sizes_of_le beyond
    rw [whole, part]

theorem exact_of_acceptable (acceptable : range.Acceptable) (bound : index < 3) :
    (ofSizes range.dimensions range.wholes range.parts).globalSize[index] =
      (ofSizes range.dimensions range.wholes range.parts).localSize[index] *
        (ofSizes range.dimensions range.wholes range.parts).groups[index] := by
  obtain ⟨globals, locals, groups⟩ := ofSizes_getElem range bound
  rw [globals, locals, groups]
  exact (Nat.mul_div_cancel' (sizes_of_acceptable acceptable index).1).symm

theorem words_of_sized {sizes : Vector Nat 3} (sized : Sized range.dimensions sizes) :
    (words sizes).map UInt32.toNat = sizes :=
  words_of_fits fun index bound => Nat.le_sub_one_of_lt (sized index bound).2.1

/-- Words of sizes other than zero are not zero either. -/
theorem words_pos {sizes : Vector Nat 3} (sized : Sized range.dimensions sizes) {count : UInt32}
    (member : count ∈ (words sizes).toList) : 1 ≤ count.toNat := by
  have among : count.toNat ∈ sizes.toList := by
    rw [← words_of_sized sized, Vector.toList_map]
    exact List.mem_map_of_mem member
  obtain ⟨index, bound, same⟩ := Vector.mem_iff_getElem.mp (Vector.mem_toList_iff.mp among)
  exact same ▸ (sized index bound).1

/-- The words of groups that make up the whole count its volume. -/
theorem workItems_words {whole parts groups : Vector Nat 3}
    (exact : ∀ index (bound : index < 3), whole[index] = parts[index] * groups[index])
    (groups_sized : Sized range.dimensions groups) (parts_sized : Sized range.dimensions parts) :
    ComputeHost.workItems (words groups) (words parts) = volume whole := by
  rw [ComputeHost.workItems, foldl_eq_prod,
    prod_words (words_of_sized groups_sized) (words_of_sized parts_sized), prod_of_exact exact]

/-- Nor does any product on the way exceed that volume. -/
theorem foldl_words_le {whole parts groups : Vector Nat 3}
    (exact : ∀ index (bound : index < 3), whole[index] = parts[index] * groups[index])
    (groups_sized : Sized range.dimensions groups) (parts_sized : Sized range.dimensions parts)
    {counts : List UInt32} (begins : counts <+: (words groups).toList ++ (words parts).toList) :
    counts.foldl (fun product count => product * count.toNat) 1 ≤ volume whole := by
  have nonzero : ∀ count ∈ (words groups).toList ++ (words parts).toList, 1 ≤ count.toNat := by
    intro count member
    rcases List.mem_append.mp member with among | among
    · exact words_pos groups_sized among
    · exact words_pos parts_sized among
  have bound := foldl_le_of_prefix begins nonzero
  rwa [prod_words (words_of_sized groups_sized) (words_of_sized parts_sized),
    prod_of_exact exact] at bound

/-- **A range that has a geometry is normalized.** -/
theorem normalized_of_ok (accepted : ofRange range = .ok geometry) :
    Normalized range geometry := by
  obtain ⟨acceptable, same⟩ := ofRange_eq_ok_iff.mp accepted
  have elements := fun index (bound : index < 3) => same ▸ ofSizes_getElem range bound
  have sized : ∀ sizes ∈ [geometry.globalSize, geometry.localSize, geometry.groups],
      Sized range.dimensions sizes := same ▸ sized_of_acceptable acceptable
  have exact : ∀ index (bound : index < 3), geometry.globalSize[index] =
      geometry.localSize[index] * geometry.groups[index] :=
    fun _ bound => same ▸ exact_of_acceptable acceptable bound
  have groups_sized := sized geometry.groups (by simp)
  have locals_sized := sized geometry.localSize (by simp)
  have items := workItems_words exact groups_sized locals_sized
  exact {
    dimensions := same ▸ rfl
    globalSize := fun sizes given index bound within => by
      obtain ⟨known, here, fit⟩ := acceptable.globals
      cases given.symm.trans here
      obtain ⟨size, there, -⟩ := fit index within
      rw [(elements index bound).1, wholes_of_some given, take_getD_of_lt within,
        List.getD_eq_getElem?_getD, there, Option.getD_some]
    localSize := fun parts given index bound within => by
      obtain ⟨part, there, -⟩ := acceptable.locals parts given index within
      rw [(elements index bound).2.1, parts_of_some given, take_getD_of_lt within,
        List.getD_eq_getElem?_getD, there, Option.getD_some]
    undivided := fun absent => by
      rw [same, ofSizes, parts_of_none absent]
    exact := exact
    sized := sized
    words := fun sizes member => words_of_sized (sized sizes member)
    workItems := fun _ => ⟨fun _ _ _ => items, fun _ _ => by rw [Performance.Event.ofLaunch, items]⟩
    inBounds := fun small _ begins =>
      Nat.lt_of_le_of_lt (foldl_words_le exact groups_sized locals_sized begins) small }

/-- **Exactly the acceptable ranges are launched, whatever they give beyond their dimensions, and
normalized.** -/
theorem ofRange_normalizes (range : LaunchRange) :
    (∀ other : LaunchRange, other.trimmed = range.trimmed → ofRange other = ofRange range) ∧
      ((∃ geometry, ofRange range = .ok geometry) ↔ range.Acceptable) ∧
      ∀ geometry, ofRange range = .ok geometry → Normalized range geometry := by
  refine ⟨fun other same => ofRange_congr same, ⟨?_, ?_⟩, fun geometry => normalized_of_ok⟩
  · rintro ⟨geometry, accepted⟩
    exact (ofRange_eq_ok_iff.mp accepted).1
  · exact fun acceptable => ⟨_, ofRange_eq_ok_iff.mpr ⟨acceptable, rfl⟩⟩

/-- Two dimensions of three given sizes, in groups of 256 by 3. -/
def planar : LaunchRange where
  dimensions := 2
  globalSize := some [1024, 6, 9]
  localSize := some [256, 3]

theorem planar_normalizes :
    ofRange planar = .ok ⟨2, #v[1024, 6, 1], #v[256, 3, 1], #v[4, 2, 1]⟩ ∧
      planar.Acceptable ∧
      ofRange { planar with globalSize := some [1024, 6, 0, 7], globalOffset := some [0, 0, 5] } =
        ofRange { planar with globalOffset := some [0, 0] } ∧
      ∀ device module kernel, LaunchSummary.workItems
        ⟨device, module, kernel, words #v[4, 2, 1], words #v[256, 3, 1]⟩ = 6144 := by
  have accepted : ofRange planar = .ok ⟨2, #v[1024, 6, 1], #v[256, 3, 1], #v[4, 2, 1]⟩ := by
    decide +kernel
  obtain ⟨-, acceptable, normalizes⟩ := ofRange_normalizes planar
  refine ⟨accepted, acceptable.mp ⟨_, accepted⟩, (ofRange_normalizes _).1 _ (by decide), ?_⟩
  exact ((normalizes _ accepted).workItems (by decide)).1

end Geometry

end ComputeHost
