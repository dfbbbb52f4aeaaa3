/-
**Looking up in an arena after each operation.**

`Arena.get?` is the view: an arena is a map from handles to objects. Changing an object
(`get?_modify`, `get?_map`) shows at exactly the handles meant, in every arena.

Nothing is ever taken out of the arenas of a host, so they are *packed*: every slot is filled and
in its first generation. There, a new object appears at the handle it was given, and all other
handles keep what they named (`Packed.get?_insert`). The statement needs no bound on the number of
slots: where indices run out, the handle given already names an object and goes on naming it.
-/

import ComputeHost.Arena

set_option linter.unusedSectionVars false

namespace ComputeHost.Arena

variable {κ : Type} [DecidableEq κ] {tag : κ} {α : Type}

/-! ### The slot behind a handle -/

theorem get?_eq_some_iff {arena : Arena tag α} {handle : Handle tag} {object : α} :
    arena.get? handle = some object ↔
      arena.slots[handle.index.toNat]? = some ⟨handle.generation, some object⟩ := by
  unfold get?
  constructor
  · intro found
    obtain ⟨⟨generation, content⟩, slot, filled⟩ := Option.bind_eq_some_iff.mp found
    split at filled
    · rename_i same
      simp only at same filled
      rw [slot, same, filled]
    · cases filled
  · intro slot
    rw [slot]
    simp

theorem contains_iff {arena : Arena tag α} {handle : Handle tag} :
    arena.contains handle = true ↔ ∃ object, arena.get? handle = some object := by
  rw [contains, Option.isSome_iff_exists]

/-- Two live handles with one index are the same handle. -/
theorem eq_of_index_eq {arena : Arena tag α} {one other : Handle tag}
    (live : arena.contains one = true) (alive : arena.contains other = true)
    (same : one.index = other.index) : one = other := by
  obtain ⟨object, found⟩ := contains_iff.mp live
  obtain ⟨object', found'⟩ := contains_iff.mp alive
  rw [get?_eq_some_iff] at found found'
  rw [same, found'] at found
  cases one
  cases other
  simp_all

/-! ### Two objects at once -/

/-- The cut at the higher slot leaves the lower object in front and the higher one behind. -/
theorem getPair?_of_lt {arena : Arena tag α} {first second : Handle tag} {one other : α}
    (less : first.index.toNat < second.index.toNat) (live : arena.get? first = some one)
    (alive : arena.get? second = some other) :
    arena.getPair? first second = some (one, other) ∧
      arena.getPair? second first = some (other, one) := by
  have below : first.index < second.index := UInt32.lt_iff_toNat_lt.mpr less
  have apart : first.index ≠ second.index := UInt32.ne_of_lt below
  have not_above : ¬ second.index < first.index := UInt32.not_lt.mpr (UInt32.le_of_lt below)
  have lower := get?_eq_some_iff.mp live
  have upper := get?_eq_some_iff.mp alive
  constructor <;>
    simp [getPair?, contains, apart, apart.symm, live, alive, below, not_above, List.splitAt_eq,
      less, lower, upper]

/-- A pair is had of two live handles that differ, in the order asked for. -/
theorem getPair?_eq_some_iff {arena : Arena tag α} {first second : Handle tag} {one other : α} :
    arena.getPair? first second = some (one, other) ↔
      first ≠ second ∧ arena.get? first = some one ∧ arena.get? second = some other := by
  have forward : first ≠ second → ∀ {one other : α}, arena.get? first = some one →
      arena.get? second = some other → arena.getPair? first second = some (one, other) := by
    intro differ one other live alive
    have apart : first.index ≠ second.index := fun same =>
      differ (eq_of_index_eq (contains_iff.mpr ⟨one, live⟩) (contains_iff.mpr ⟨other, alive⟩) same)
    rcases Nat.lt_or_gt_of_ne fun same => apart (UInt32.toNat_inj.mp same) with less | greater
    · exact (getPair?_of_lt less live alive).1
    · exact (getPair?_of_lt greater alive live).2
  constructor
  · intro pairing
    have checks : ¬ (first.index = second.index || !arena.contains first ||
        !arena.contains second) := by
      intro refused
      rw [getPair?, if_pos refused] at pairing
      cases pairing
    simp only [Bool.or_eq_true, decide_eq_true_eq, Bool.not_eq_true', not_or,
      Bool.not_eq_false] at checks
    obtain ⟨⟨apart, live⟩, alive⟩ := checks
    obtain ⟨one', found⟩ := contains_iff.mp live
    obtain ⟨other', found'⟩ := contains_iff.mp alive
    have differ : first ≠ second := fun same => apart (congrArg Handle.index same)
    rw [forward differ found found'] at pairing
    cases pairing
    exact ⟨differ, found, found'⟩
  · rintro ⟨differ, live, alive⟩
    exact forward differ live alive

/-! ### Changing objects -/

/-- Changing the object of a handle shows at that handle only. -/
theorem get?_modify (arena : Arena tag α) (target handle : Handle tag) (change : α → α) :
    (arena.modify target change).get? handle =
      if handle = target then (arena.get? target).map change else arena.get? handle := by
  unfold modify
  by_cases live : arena.contains target = true
  · rw [if_pos live]
    obtain ⟨object, found⟩ := contains_iff.mp live
    have slot := get?_eq_some_iff.mp found
    by_cases here : handle = target
    · subst here
      rw [if_pos rfl, found]
      simp [get?, slot]
    · rw [if_neg here]
      unfold get?
      simp only [List.getElem?_modify]
      by_cases place : target.index.toNat = handle.index.toNat
      · -- the slot is another's, so the handle is not live before or after
        have index : target.index = handle.index := UInt32.toNat_inj.mp place
        have other : target.generation ≠ handle.generation := by
          intro same
          apply here
          cases target
          cases handle
          simp_all
        rw [← place, slot]
        simp [other]
      · simp [place]
  · rw [if_neg live]
    have absent : arena.get? target = none :=
      get?_of_not_contains (by simpa using live)
    by_cases here : handle = target
    · rw [if_pos here, here, absent]
      rfl
    · rw [if_neg here]

theorem get?_map (arena : Arena tag α) (change : α → α) (handle : Handle tag) :
    (arena.map change).get? handle = (arena.get? handle).map change := by
  unfold get? map
  simp only [List.getElem?_map]
  cases arena.slots[handle.index.toNat]? with
  | none => rfl
  | some slot =>
    simp only [Option.map_some, Option.bind_some]
    split <;> rfl

theorem isEmpty_modify (arena : Arena tag α) (target : Handle tag) (change : α → α) :
    (arena.modify target change).isEmpty = arena.isEmpty := by
  unfold modify
  split <;> rfl

theorem isEmpty_insert (arena : Arena tag α) (object : α) :
    (arena.insert object).2.isEmpty = false := by
  unfold insert
  split <;> rfl

/-! ### The objects in slot order -/

theorem objects_eq (arena : Arena tag α) : arena.objects = arena.slots.filterMap Slot.content := by
  have general : ∀ (slots : List (Slot α)) (start : Nat),
      ((slots.zipIdx start).filterMap fun place => place.1.content.map fun object =>
          ((⟨UInt32.ofNat place.2, place.1.generation⟩ : Handle tag), object)).map Prod.snd =
        slots.filterMap Slot.content := by
    intro slots
    induction slots with
    | nil => intro start; rfl
    | cons slot rest ih =>
      intro start
      obtain ⟨generation, content⟩ := slot
      cases content with
      | none => exact ih (start + 1)
      | some object => exact congrArg (object :: ·) (ih (start + 1))
  exact general arena.slots 0

theorem mem_objects_of_get? {arena : Arena tag α} {handle : Handle tag} {object : α}
    (found : arena.get? handle = some object) : object ∈ arena.objects := by
  rw [objects_eq, List.mem_filterMap]
  exact ⟨_, List.mem_of_getElem? (get?_eq_some_iff.mp found), rfl⟩

/-- What holds between any two objects holds between those of different handles. -/
theorem rel_of_pairwise {arena : Arena tag α} {relation : α → α → Prop}
    (pairwise : arena.objects.Pairwise relation)
    (symmetric : ∀ one other, relation one other → relation other one) {one other : Handle tag}
    {object object' : α} (found : arena.get? one = some object)
    (found' : arena.get? other = some object') (differ : one ≠ other) :
    relation object object' := by
  have apart : one.index.toNat ≠ other.index.toNat := fun same =>
    differ (eq_of_index_eq (contains_iff.mpr ⟨object, found⟩) (contains_iff.mpr ⟨object', found'⟩)
      (UInt32.toNat_inj.mp same))
  rw [objects_eq, List.pairwise_filterMap, List.pairwise_iff_getElem] at pairwise
  obtain ⟨here, slot⟩ := List.getElem?_eq_some_iff.mp (get?_eq_some_iff.mp found)
  obtain ⟨there, slot'⟩ := List.getElem?_eq_some_iff.mp (get?_eq_some_iff.mp found')
  rcases Nat.lt_or_gt_of_ne apart with less | greater
  · exact pairwise _ _ here there less object (by rw [slot]) object' (by rw [slot'])
  · exact symmetric _ _
      (pairwise _ _ there here greater object' (by rw [slot']) object (by rw [slot]))

theorem objects_map (arena : Arena tag α) (change : α → α) :
    (arena.map change).objects = arena.objects.map change := by
  rw [objects_eq, objects_eq, map, List.filterMap_map, List.map_filterMap]
  rfl

theorem mem_handles_of_get? {arena : Arena tag α} {handle : Handle tag} {object : α}
    (found : arena.get? handle = some object) : handle ∈ arena.handles := by
  have slot := get?_eq_some_iff.mp found
  rw [handles, entries, List.mem_map]
  refine ⟨(handle, object), ?_, rfl⟩
  rw [List.mem_filterMap]
  refine ⟨(⟨handle.generation, some object⟩, handle.index.toNat), ?_, ?_⟩
  · exact List.mem_zipIdx_iff_getElem?.mpr slot
  · simp

/-! ### Arenas from which nothing was taken -/

/-- Every slot is filled, and by its first object. -/
structure Packed (arena : Arena tag α) : Prop where
  vacant : arena.vacant = []
  filled : ∀ slot ∈ arena.slots, slot.generation = 1 ∧ slot.content.isSome

theorem Packed.empty : (Arena.empty : Arena tag α).Packed :=
  ⟨rfl, fun _ member => by cases member⟩

namespace Packed

variable {arena : Arena tag α}

theorem slot_eq (packed : arena.Packed) {index : Nat} {slot : Slot α}
    (found : arena.slots[index]? = some slot) : ∃ object, slot = ⟨1, some object⟩ := by
  obtain ⟨first, some_content⟩ := packed.filled slot (List.mem_of_getElem? found)
  obtain ⟨object, content⟩ := Option.isSome_iff_exists.mp some_content
  cases slot
  exact ⟨object, by simp_all⟩

/-- A new object gets a slot of its own. -/
theorem insert_eq (packed : arena.Packed) (object : α) :
    arena.insert object =
      (⟨UInt32.ofNat arena.slots.length, 1⟩,
        { arena with slots := arena.slots ++ [⟨1, some object⟩], size := arena.size + 1 }) := by
  unfold Arena.insert
  rw [packed.vacant]

theorem insert (packed : arena.Packed) (object : α) : (arena.insert object).2.Packed := by
  rw [packed.insert_eq]
  refine ⟨packed.vacant, fun slot member => ?_⟩
  rcases List.mem_append.mp member with old | new
  · exact packed.filled slot old
  · rw [List.mem_singleton.mp new]
    exact ⟨rfl, rfl⟩

theorem modify (packed : arena.Packed) (target : Handle tag) (change : α → α) :
    (arena.modify target change).Packed := by
  unfold Arena.modify
  split
  · refine ⟨packed.vacant, fun slot member => ?_⟩
    obtain ⟨index, found⟩ := List.mem_iff_getElem?.mp member
    rw [List.getElem?_modify] at found
    obtain ⟨before, stood, changed⟩ := Option.map_eq_some_iff.mp found
    obtain ⟨object, first⟩ := packed.slot_eq stood
    subst first
    split at changed <;> subst changed <;> exact ⟨rfl, rfl⟩
  · exact packed

theorem map (packed : arena.Packed) (change : α → α) : (arena.map change).Packed := by
  refine ⟨packed.vacant, fun slot member => ?_⟩
  obtain ⟨before, stood, rfl⟩ := List.mem_map.mp member
  obtain ⟨first, content⟩ := packed.filled before stood
  exact ⟨first, by simpa using content⟩

/-- A new object is found at the handle it was given, unless that handle named an object before. -/
theorem get?_insert (packed : arena.Packed) (object : α) (handle : Handle tag) :
    (arena.insert object).2.get? handle =
      (arena.get? handle).or
        (if handle = (arena.insert object).1 then some object else none) := by
  rw [packed.insert_eq]
  simp only
  rcases Nat.lt_trichotomy handle.index.toNat arena.slots.length with old | new | beyond
  · -- an old slot, filled in its first generation
    have kept : (arena.slots ++ [⟨1, some object⟩])[handle.index.toNat]? =
        arena.slots[handle.index.toNat]? := List.getElem?_append_left old
    have found := List.getElem?_eq_getElem old
    obtain ⟨held, first⟩ := packed.slot_eq found
    rw [first] at found
    simp only [get?, kept, found, Option.bind_some]
    by_cases generation : (1 : UInt32) = handle.generation
    · simp [generation]
    · have other : handle ≠ ⟨UInt32.ofNat arena.slots.length, 1⟩ := by
        intro same
        exact generation (by rw [same])
      simp [generation, other]
  · -- the slot just made
    have none_before : arena.get? handle = none := by
      unfold get?
      rw [List.getElem?_eq_none (by omega)]
      rfl
    have made : (arena.slots ++ [⟨1, some object⟩])[handle.index.toNat]? =
        some ⟨1, some object⟩ := by rw [new, List.getElem?_concat_length]
    have index : handle.index = UInt32.ofNat arena.slots.length := by
      rw [← new, UInt32.ofNat_toNat]
    rw [none_before, Option.none_or]
    simp only [get?, made, Option.bind_some]
    by_cases generation : (1 : UInt32) = handle.generation
    · have same : handle = ⟨UInt32.ofNat arena.slots.length, 1⟩ := by
        cases handle
        simp_all
      rw [if_pos generation, if_pos same]
    · have other : handle ≠ ⟨UInt32.ofNat arena.slots.length, 1⟩ := by
        intro same
        exact generation (by rw [same])
      rw [if_neg generation, if_neg other]
  · -- no slot at all
    have other : handle ≠ ⟨UInt32.ofNat arena.slots.length, 1⟩ := by
      intro same
      have index : handle.index.toNat = arena.slots.length % UInt32.size := by
        rw [same, UInt32.toNat_ofNat']
      have bound := Nat.mod_le arena.slots.length UInt32.size
      omega
    rw [if_neg other, Option.or_none]
    unfold get?
    rw [List.getElem?_eq_none (by simp; omega), List.getElem?_eq_none (by omega)]

/-- What a face shows of a new object is found where the object is. -/
theorem map_get?_insert {β : Type} (packed : arena.Packed) (face : α → β) (object : α)
    (handle : Handle tag) :
    ((arena.insert object).2.get? handle).map face =
      ((arena.get? handle).map face).or
        (if handle = (arena.insert object).1 then some (face object) else none) := by
  rw [packed.get?_insert]
  cases arena.get? handle with
  | some held => rfl
  | none =>
    rw [Option.map_none, Option.none_or, Option.none_or]
    split <;> rfl

theorem objects_insert (packed : arena.Packed) (object : α) :
    (arena.insert object).2.objects = arena.objects ++ [object] := by
  rw [objects_eq, objects_eq, packed.insert_eq]
  simp

/-- Every handle that is listed is live. -/
theorem contains_of_mem_handles (packed : arena.Packed) {handle : Handle tag}
    (listed : handle ∈ arena.handles) : arena.contains handle = true := by
  rw [handles, entries, List.mem_map] at listed
  obtain ⟨⟨same, object⟩, listed, rfl⟩ := listed
  rw [List.mem_filterMap] at listed
  obtain ⟨⟨slot, index⟩, member, filled⟩ := listed
  have found := List.mem_zipIdx_iff_getElem?.mp member
  obtain ⟨held, first⟩ := packed.slot_eq found
  simp only at first
  subst first
  simp only [Option.map_some, Option.some.injEq, Prod.mk.injEq] at filled
  obtain ⟨rfl, rfl⟩ := filled
  have within : index < arena.slots.length := (List.getElem?_eq_some_iff.mp found).1
  have index_le : index % UInt32.size ≤ index := Nat.mod_le _ _
  have place : (UInt32.ofNat index).toNat = index % UInt32.size := UInt32.toNat_ofNat'
  have stands := List.getElem?_eq_getElem (Nat.lt_of_le_of_lt index_le within)
  obtain ⟨object, first⟩ := packed.slot_eq stands
  refine contains_iff.mpr ⟨object, get?_eq_some_iff.mpr ?_⟩
  rw [place, stands, first]

end Packed

end ComputeHost.Arena
