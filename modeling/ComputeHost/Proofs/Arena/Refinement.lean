/-
**An arena is a map from handles to objects.**

`Expected` is the map: what each operation may answer when the live objects are `objects`, and which
objects are live after it. It knows nothing of slots and generations but the order of listings: a
new object gets some handle that named nothing, a handle names what was put under it until that is
taken out, and a listing has every live object once, in ascending order of slots.

* `lists_entries` — an arena lists what it looks up.
* `Tidy.expected` — one operation on an arena that keeps account of its slots.
* `answers_as_map` — **every run of an arena answers as the map does**, whatever handles are asked
  for.
-/

import ComputeHost.Proofs.Arena.Tidy
import Mathlib.Data.Set.Card

set_option linter.unusedSectionVars false

namespace ComputeHost.Arena

variable {κ : Type} [DecidableEq κ] {tag : κ} {α : Type}

/-! ### The map -/

/-- The live objects with their handles, each once, in ascending order of slots. -/
structure Lists (objects : Handle tag → Option α) (listed : List (Handle tag × α)) : Prop where
  ascending : listed.Pairwise fun one other => one.1.index < other.1.index
  mem_iff : ∀ handle object, (handle, object) ∈ listed ↔ objects handle = some object

/-- **What a map answers to an operation, and the map after it.** -/
inductive Expected : (Handle tag → Option α) → Operation tag α → Reply tag α →
    (Handle tag → Option α) → Prop
  | insert {objects handle} (object : α) (fresh : objects handle = none) :
      Expected objects (.insert object) (.handle handle)
        (Function.update objects handle (some object))
  | get {objects} (handle : Handle tag) :
      Expected objects (.get handle) (.object (objects handle)) objects
  | modify {objects handle object} (change : α → α) (live : objects handle = some object) :
      Expected objects (.modify handle change) (.object (some object))
        (Function.update objects handle (some (change object)))
  | modifyAbsent {objects handle} (change : α → α) (absent : objects handle = none) :
      Expected objects (.modify handle change) (.object none) objects
  | modifyPair {objects first second one other} (change : α × α → α × α)
      (differ : first ≠ second) (live : objects first = some one)
      (alive : objects second = some other) :
      Expected objects (.modifyPair first second change) (.pair (some (one, other)))
        (Function.update (Function.update objects first (some (change (one, other)).1)) second
          (some (change (one, other)).2))
  | modifyNoPair {objects first second} (change : α × α → α × α)
      (refused : first = second ∨ objects first = none ∨ objects second = none) :
      Expected objects (.modifyPair first second change) (.pair none) objects
  | modifyAll {objects listed} (change : Handle tag → α → α) (lists : Lists objects listed) :
      Expected objects (.modifyAll change) (.entries listed)
        fun handle => (objects handle).map (change handle)
  | remove {objects handle object} (live : objects handle = some object) :
      Expected objects (.remove handle) (.object (some object))
        (Function.update objects handle none)
  | removeAbsent {objects handle} (absent : objects handle = none) :
      Expected objects (.remove handle) (.object none) objects
  | contains {objects} (handle : Handle tag) :
      Expected objects (.contains handle) (.truth (objects handle).isSome) objects
  | entries {objects listed} (lists : Lists objects listed) :
      Expected objects .entries (.entries listed) objects
  | handles {objects listed} (lists : Lists objects listed) :
      Expected objects .handles (.handles (listed.map Prod.fst)) objects
  | drain {objects listed} (lists : Lists objects listed) :
      Expected objects .drain (.objects (listed.map Prod.snd)) fun _ => none
  | size {objects} :
      Expected objects .size (.count {handle | (objects handle).isSome}.ncard) objects
  | isEmpty {objects value} (empty : value = true ↔ ∀ handle, objects handle = none) :
      Expected objects .isEmpty (.truth value) objects

/-- What a map answers to operations in order, and the map after them. -/
inductive Answered : (Handle tag → Option α) → List (Operation tag α) → List (Reply tag α) →
    (Handle tag → Option α) → Prop
  | nil {objects} : Answered objects [] [] objects
  | cons {objects between after operation operations reply replies}
      (one : Expected objects operation reply between)
      (rest : Answered between operations replies after) :
      Answered objects (operation :: operations) (reply :: replies) after

/-! ### Listings -/

theorem mem_entries_iff {arena : Arena tag α} (fits : arena.slots.length ≤ UInt32.size)
    {handle : Handle tag} {object : α} :
    (handle, object) ∈ arena.entries ↔ arena.get? handle = some object := by
  rw [entries, List.mem_filterMap, get?_eq_some_iff]
  constructor
  · rintro ⟨⟨⟨generation, content⟩, index⟩, among, shown⟩
    have slot := List.mem_zipIdx_iff_getElem?.mp among
    have within : index < arena.slots.length := (List.getElem?_eq_some_iff.mp slot).1
    obtain ⟨held, rfl, same⟩ := Option.map_eq_some_iff.mp shown
    simp only [Prod.mk.injEq] at same
    obtain ⟨rfl, rfl⟩ := same
    rwa [UInt32.toNat_ofNat_of_lt' (Nat.lt_of_lt_of_le within fits)]
  · intro slot
    exact ⟨(⟨handle.generation, some object⟩, handle.index.toNat),
      List.mem_zipIdx_iff_getElem?.mpr slot, by simp⟩

/-- **An arena lists what it looks up.** -/
theorem lists_entries {arena : Arena tag α} (fits : arena.slots.length ≤ UInt32.size) :
    Lists arena.get? arena.entries := by
  refine ⟨?_, fun _ _ => mem_entries_iff fits⟩
  rw [entries, List.pairwise_filterMap, List.pairwise_iff_getElem]
  intro below above first second less one shown other shown'
  simp only [List.getElem_zipIdx, Nat.zero_add] at shown shown'
  obtain ⟨_, -, rfl⟩ := Option.map_eq_some_iff.mp shown
  obtain ⟨_, -, rfl⟩ := Option.map_eq_some_iff.mp shown'
  rw [List.length_zipIdx] at first second
  rw [UInt32.lt_iff_toNat_lt, UInt32.toNat_ofNat_of_lt' (Nat.lt_of_lt_of_le first fits),
    UInt32.toNat_ofNat_of_lt' (Nat.lt_of_lt_of_le second fits)]
  exact less

namespace Lists

variable {objects : Handle tag → Option α} {listed : List (Handle tag × α)}

theorem nodup (lists : Lists objects listed) : (listed.map Prod.fst).Nodup := by
  rw [List.nodup_iff_pairwise_ne, List.pairwise_map]
  refine lists.ascending.imp fun less same => ?_
  rw [same] at less
  exact UInt32.lt_irrefl _ less

theorem mem_handles_iff (lists : Lists objects listed) {handle : Handle tag} :
    handle ∈ listed.map Prod.fst ↔ (objects handle).isSome = true := by
  rw [Option.isSome_iff_exists, List.mem_map]
  constructor
  · rintro ⟨⟨_, object⟩, among, rfl⟩
    exact ⟨object, (lists.mem_iff _ _).mp among⟩
  · rintro ⟨object, found⟩
    exact ⟨(handle, object), (lists.mem_iff _ _).mpr found, rfl⟩

/-- A listing is as long as the number of live handles. -/
theorem ncard (lists : Lists objects listed) :
    {handle | (objects handle).isSome = true}.ncard = listed.length := by
  have same : {handle | (objects handle).isSome = true} =
      ((listed.map Prod.fst).toFinset : Set (Handle tag)) := by
    ext handle
    simp only [Set.mem_ofPred_eq, List.coe_toFinset]
    exact lists.mem_handles_iff.symm
  rw [same, Set.ncard_coe_finset, List.toFinset_card_of_nodup lists.nodup, List.length_map]

theorem eq_nil_iff (lists : Lists objects listed) :
    listed = [] ↔ ∀ handle, objects handle = none := by
  constructor
  · rintro rfl handle
    refine Option.eq_none_iff_forall_ne_some.mpr fun object found => ?_
    cases (lists.mem_iff handle object).mpr found
  · intro none_live
    refine List.eq_nil_iff_forall_not_mem.mpr fun ⟨handle, object⟩ among => ?_
    rw [lists.mem_iff, none_live] at among
    cases among

end Lists

/-! ### Looking up after each operation -/

theorem get?_modifyAll (arena : Arena tag α) (change : Handle tag → α → α) (handle : Handle tag) :
    (arena.modifyAll change).get? handle = (arena.get? handle).map (change handle) := by
  unfold get? modifyAll
  simp only [List.getElem?_mapIdx]
  cases arena.slots[handle.index.toNat]? with
  | none => rfl
  | some slot =>
    simp only [Option.map_some, Option.bind_some, UInt32.ofNat_toNat]
    split
    · rename_i same
      rw [same]
    · rfl

namespace Tidy

variable {arena : Arena tag α}

theorem get?_insert (tidy : arena.Tidy) (object : α)
    (room : (arena.insert object).2.slots.length ≤ UInt32.size) :
    (arena.insert object).2.get? =
      Function.update arena.get? (arena.insert object).1 (some object) := by
  funext handle
  rw [get?, tidy.getElem?_insert object room, Function.update_apply]
  by_cases place : handle.index.toNat = (arena.insert object).1.index.toNat
  · have bare : arena.get? handle = none :=
      get?_eq_none_of_content (place ▸ tidy.content_insert object room)
    have index : handle.index = (arena.insert object).1.index := UInt32.toNat_inj.mp place
    rw [if_pos place, bare, Option.bind_some]
    by_cases generation : (arena.insert object).1.generation = handle.generation
    · have same : handle = (arena.insert object).1 := Handle.ext index generation.symm
      rw [if_pos generation, if_pos same]
    · have other : handle ≠ (arena.insert object).1 := fun same => generation (by rw [same])
      rw [if_neg generation, if_neg other]
  · have other : handle ≠ (arena.insert object).1 := fun same => place (by rw [same])
    rw [if_neg place, if_neg other, get?]

theorem get?_drain (tidy : arena.Tidy) (handle : Handle tag) :
    arena.drain.2.get? handle = none := by
  refine get?_eq_none_of_content ?_
  rw [getElem?_drain tidy.fits]
  cases arena.slots[handle.index.toNat]? <;> simp

theorem size_eq_length (tidy : arena.Tidy) : arena.size = arena.entries.length := by
  have length : arena.entries.length = arena.objects.length := by simp [objects]
  rw [tidy.size, length, objects_eq, List.length_filterMap_eq_countP]

/-- **One operation answers as the map does.** -/
theorem expected (tidy : arena.Tidy) (operation : Operation tag α)
    (room : (arena.perform operation).2.slots.length ≤ UInt32.size) :
    Expected arena.get? operation (arena.perform operation).1
      (arena.perform operation).2.get? := by
  have lists := lists_entries tidy.fits
  cases operation with
  | insert object =>
    have fresh := get?_eq_none_of_content (tidy.content_insert object room)
    have after := tidy.get?_insert object room
    simp only [Arena.perform, after]
    exact .insert object fresh
  | get handle => exact .get handle
  | modify handle change =>
    cases found : arena.get? handle with
    | none =>
      have absent : arena.contains handle = false := by simp [Arena.contains, found]
      simp only [Arena.perform, found, modify_of_not_contains change absent]
      exact .modifyAbsent change found
    | some object =>
      have after : (arena.modify handle change).get? =
          Function.update arena.get? handle (some (change object)) := by
        funext other
        simp [get?_modify, Function.update_apply, found]
      simp only [Arena.perform, found, after]
      exact .modify change found
  | modifyPair first second change =>
    cases pairing : arena.getPair? first second with
    | none =>
      simp only [Arena.perform, Arena.modifyPair, pairing]
      refine .modifyNoPair change (Classical.or_iff_not_imp_left.mpr fun differ => ?_)
      cases live : arena.get? first with
      | none => exact .inl rfl
      | some one =>
        refine .inr (Option.eq_none_iff_forall_ne_some.mpr fun other alive => ?_)
        rw [getPair?_eq_some_iff.mpr ⟨differ, live, alive⟩] at pairing
        cases pairing
    | some pair =>
      obtain ⟨one, other⟩ := pair
      obtain ⟨differ, live, alive⟩ := getPair?_eq_some_iff.mp pairing
      have after : (arena.modifyPair first second change).get? =
          Function.update (Function.update arena.get? first (some (change (one, other)).1)) second
            (some (change (one, other)).2) := by
        funext handle
        by_cases there : handle = second
        · simp [Arena.modifyPair, pairing, get?_modify, there, differ.symm, alive]
        · by_cases here : handle = first <;>
            simp [Arena.modifyPair, pairing, get?_modify, there, here, differ, live]
      simp only [Arena.perform, pairing, after]
      exact .modifyPair change differ live alive
  | modifyAll change =>
    have after : (arena.modifyAll change).get? =
        fun handle => (arena.get? handle).map (change handle) :=
      funext (get?_modifyAll arena change)
    simp only [Arena.perform, after]
    exact .modifyAll change lists
  | remove handle =>
    simp only [Arena.perform, fst_take]
    cases found : arena.get? handle with
    | none =>
      rw [take_of_get?_eq_none found]
      exact .removeAbsent found
    | some object =>
      have after : (arena.take handle).2.get? = Function.update arena.get? handle none := by
        funext other
        rw [get?_take, Function.update_apply]
      rw [after]
      exact .remove found
  | contains handle => exact .contains handle
  | entries => exact .entries lists
  | handles => exact .handles lists
  | drain =>
    have after : arena.drain.2.get? = fun _ => none := funext tidy.get?_drain
    simp only [Arena.perform, after, fst_drain tidy.fits]
    exact .drain lists
  | size =>
    simp only [Arena.perform]
    rw [tidy.size_eq_length, ← lists.ncard]
    exact .size
  | isEmpty =>
    refine .isEmpty ?_
    rw [← lists.eq_nil_iff, Arena.isEmpty, tidy.size_eq_length]
    simp

theorem answered (tidy : arena.Tidy) (operations : List (Operation tag α))
    (room : (Arena.run operations arena).2.slots.length ≤ UInt32.size) :
    Answered arena.get? operations (Arena.run operations arena).1
      (Arena.run operations arena).2.get? := by
  induction operations generalizing arena with
  | nil => exact .nil
  | cons operation rest ih =>
    have soon := Nat.le_trans (length_slots_le_run rest _) room
    exact .cons (tidy.expected operation soon) (ih (tidy.perform operation soon) room)

end Tidy

/-- **An arena answers as a map.** Every sequence of operations on a new arena, with whatever
handles, gets the answers of a map from handles to objects that starts empty, and leaves the arena
looking up what the map holds — as long as the arena has no more slots than there are indices. -/
theorem answers_as_map (operations : List (Operation tag α))
    (room : (run operations (empty : Arena tag α)).2.slots.length ≤ UInt32.size) :
    Answered (fun _ => none) operations (run operations (empty : Arena tag α)).1
      (run operations (empty : Arena tag α)).2.get? :=
  Tidy.empty.answered operations room

/-- Two objects, of which the first makes room for a third; the handle of the first stays in use. -/
def replacing : List (Operation () Nat) :=
  [.insert 10, .insert 20, .remove ⟨0, 1⟩, .remove ⟨0, 1⟩, .insert 30, .get ⟨0, 1⟩,
    .modifyPair ⟨1, 1⟩ ⟨0, 2⟩ Prod.swap, .modifyPair ⟨0, 1⟩ ⟨1, 1⟩ Prod.swap, .contains (.ofBits 0),
    .entries, .drain, .size]

theorem answers_as_map_replacing :
    (run replacing empty).2.slots.length ≤ UInt32.size ∧
      (run replacing empty).1 =
        [.handle ⟨0, 1⟩, .handle ⟨1, 1⟩, .object (some 10), .object none, .handle ⟨0, 2⟩,
          .object none, .pair (some (20, 30)), .pair none, .truth false,
          .entries [(⟨0, 2⟩, 20), (⟨1, 1⟩, 30)], .objects [20, 30], .count 0] ∧
      Answered (fun _ => none) replacing (run replacing empty).1 (run replacing empty).2.get? :=
  ⟨by decide, by rfl, answers_as_map replacing (by decide)⟩

end ComputeHost.Arena
