/-
**Arenas keep account of their slots.**

`Tidy` says what an arena knows about its slots: the vacant indices are exactly those of the empty
slots, each once; the size is the number of filled slots; no generation is zero; and every slot has
an index of 32 bits.

Each operation is described at the slots: inserting fills one slot that was empty or did not exist
(`Tidy.getElem?_insert`), taking out empties the slot of a live handle (`getElem?_take`), draining
empties every slot (`getElem?_drain`), and changing objects leaves the slots as they were but for
what is in them.

* `Tidy.perform`, `Tidy.run` — the invariant holds along every run, as long as indices last.
-/

import ComputeHost.Proofs.Arena.Face
import Mathlib.Data.List.Basic

set_option linter.unusedSectionVars false

namespace ComputeHost

/-- The slot without its object, and in the next generation if it had one. -/
def Slot.emptied {α : Type} (slot : Slot α) : Slot α :=
  match slot.content with
  | none => slot
  | some _ => ⟨Arena.nextGeneration slot.generation, none⟩

@[simp] theorem Slot.content_emptied {α : Type} (slot : Slot α) : slot.emptied.content = none := by
  obtain ⟨generation, _ | object⟩ := slot <;> rfl

theorem Slot.emptied_emptied {α : Type} (slot : Slot α) : slot.emptied.emptied = slot.emptied := by
  obtain ⟨generation, _ | object⟩ := slot <;> rfl

namespace Arena

variable {κ : Type} [DecidableEq κ] {tag : κ} {α : Type}

/-- **The arena keeps account of its slots.** -/
structure Tidy (arena : Arena tag α) : Prop where
  fits : arena.slots.length ≤ UInt32.size
  apart : arena.vacant.Nodup
  vacant : ∀ index, index ∈ arena.vacant ↔
    arena.slots[index.toNat]?.map Slot.content = some none
  size : arena.size = arena.slots.countP fun slot => slot.content.isSome
  started : ∀ slot ∈ arena.slots, slot.generation ≠ 0

theorem Tidy.empty : (Arena.empty : Arena tag α).Tidy where
  fits := Nat.zero_le _
  apart := .nil
  vacant := fun _ => by simp [Arena.empty]
  size := rfl
  started := fun _ among => by cases among

theorem nextGeneration_ne_zero (generation : UInt32) : nextGeneration generation ≠ 0 := by
  unfold nextGeneration
  split
  · decide
  · assumption

/-! ### What changes at the slots -/

theorem get?_eq_none_of_content {arena : Arena tag α} {handle : Handle tag}
    (bare : arena.slots[handle.index.toNat]?.bind Slot.content = none) :
    arena.get? handle = none := by
  refine Option.eq_none_iff_forall_ne_some.mpr fun object found => ?_
  rw [get?_eq_some_iff.mp found] at bare
  cases bare

/-- Taking out empties the slot of a live handle. -/
theorem getElem?_take (arena : Arena tag α) (handle : Handle tag) (place : Nat) :
    (arena.take handle).2.slots[place]? =
      if place = handle.index.toNat ∧ arena.contains handle = true then
        arena.slots[place]?.map Slot.emptied
      else arena.slots[place]? := by
  cases found : arena.get? handle with
  | none =>
    have absent : arena.contains handle = false := by simp [contains, found]
    rw [take_of_get?_eq_none found, if_neg (by simp [absent])]
  | some object =>
    have live := contains_iff.mpr ⟨object, found⟩
    have slot := get?_eq_some_iff.mp found
    rw [take_of_get?_eq_some found]
    simp only [List.getElem?_modify, live, and_true]
    by_cases here : place = handle.index.toNat
    · subst here
      simp [slot, Slot.emptied]
    · simp [here, Ne.symm here]

/-- Taking out what a slot holds empties it, and does nothing to an empty slot. -/
theorem getElem?_take_current {arena : Arena tag α} (fits : arena.slots.length ≤ UInt32.size)
    {index : Nat} {slot : Slot α} (found : arena.slots[index]? = some slot) (place : Nat) :
    (arena.take ⟨UInt32.ofNat index, slot.generation⟩).2.slots[place]? =
      if place = index then arena.slots[place]?.map Slot.emptied else arena.slots[place]? := by
  have within : index < arena.slots.length := (List.getElem?_eq_some_iff.mp found).1
  have same : (UInt32.ofNat index).toNat = index :=
    UInt32.toNat_ofNat_of_lt' (Nat.lt_of_lt_of_le within fits)
  rw [getElem?_take, same]
  by_cases here : place = index
  · subst here
    obtain ⟨generation, content⟩ := slot
    cases content <;> simp [contains, get?, same, found, Slot.emptied]
  · simp [here]

/-- Draining slots empties them. -/
theorem getElem?_drainSlots (indices : List Nat) {arena : Arena tag α}
    (fits : arena.slots.length ≤ UInt32.size) (place : Nat) :
    (drainSlots indices arena).2.slots[place]? =
      if place ∈ indices then arena.slots[place]?.map Slot.emptied else arena.slots[place]? := by
  induction indices generalizing arena with
  | nil => simp [drainSlots]
  | cons index rest ih =>
    rw [drainSlots_cons]
    cases found : arena.slots[index]? with
    | none =>
      simp only [ih fits]
      by_cases here : place = index
      · subst here
        simp [found]
      · simp [here]
    | some slot =>
      simp only [ih (Nat.le_trans (Nat.le_of_eq (length_slots_take _ _)) fits),
        getElem?_take_current fits found]
      by_cases here : place = index
      · subst here
        simp [found, Slot.emptied_emptied]
      · simp [here]

theorem getElem?_drain {arena : Arena tag α} (fits : arena.slots.length ≤ UInt32.size)
    (place : Nat) : arena.drain.2.slots[place]? = arena.slots[place]?.map Slot.emptied := by
  rw [drain, getElem?_drainSlots _ fits]
  by_cases within : place < arena.slots.length <;> simp [within]

/-- Draining slots gives what was in them, in the order of the slots. -/
theorem fst_drainSlots {indices : List Nat} (apart : indices.Nodup) {arena : Arena tag α}
    (fits : arena.slots.length ≤ UInt32.size) :
    (drainSlots indices arena).1 =
      indices.filterMap fun index => arena.slots[index]?.bind Slot.content := by
  induction indices generalizing arena with
  | nil => rfl
  | cons index rest ih =>
    obtain ⟨fresh, apart⟩ := List.nodup_cons.mp apart
    rw [drainSlots_cons]
    cases found : arena.slots[index]? with
    | none => simp [found, ih apart fits]
    | some slot =>
      have later : ∀ other ∈ rest,
          (arena.take ⟨UInt32.ofNat index, slot.generation⟩).2.slots[other]?.bind Slot.content =
            arena.slots[other]?.bind Slot.content := fun other among => by
        have differ : other ≠ index := fun same => fresh (same ▸ among)
        rw [getElem?_take_current fits found, if_neg differ]
      have within : index < arena.slots.length := (List.getElem?_eq_some_iff.mp found).1
      have same : (UInt32.ofNat index).toNat = index :=
        UInt32.toNat_ofNat_of_lt' (Nat.lt_of_lt_of_le within fits)
      have here : arena.get? ⟨UInt32.ofNat index, slot.generation⟩ = slot.content := by
        simp [get?, same, found]
      simp only [ih apart (Nat.le_trans (Nat.le_of_eq (length_slots_take _ _)) fits), here]
      rw [List.filterMap_congr later, List.filterMap_cons, found, Option.bind_some]
      cases slot.content <;> rfl

theorem fst_drain {arena : Arena tag α} (fits : arena.slots.length ≤ UInt32.size) :
    arena.drain.1 = arena.objects := by
  have inOrder : ∀ slots : List (Slot α), (List.range slots.length).filterMap
      (fun index => slots[index]?.bind Slot.content) = slots.filterMap Slot.content := by
    intro slots
    induction slots with
    | nil => rfl
    | cons slot rest ih =>
      rw [List.length_cons, List.range_succ_eq_map, List.filterMap_cons, List.filterMap_map,
        List.filterMap_cons, ← ih]
      rfl
  rw [drain, fst_drainSlots List.nodup_range fits, objects_eq, inOrder]

namespace Tidy

variable {arena : Arena tag α}

/-- An object takes the slot emptied last, in its generation, or a new slot. -/
theorem insert_cases (tidy : arena.Tidy) (object : α) :
    (∃ index rest generation, arena.vacant = index :: rest ∧
      arena.slots[index.toNat]? = some ⟨generation, none⟩ ∧
      arena.insert object = (⟨index, generation⟩,
        { slots := arena.slots.set index.toNat ⟨generation, some object⟩
          vacant := rest
          size := arena.size + 1 })) ∨
    (arena.vacant = [] ∧
      arena.insert object = (⟨UInt32.ofNat arena.slots.length, 1⟩,
        { slots := arena.slots ++ [⟨1, some object⟩]
          vacant := []
          size := arena.size + 1 })) := by
  cases vacant : arena.vacant with
  | nil => exact .inr ⟨rfl, by simp [Arena.insert, vacant]⟩
  | cons index rest =>
    have bare := (tidy.vacant index).mp (by simp [vacant])
    obtain ⟨⟨generation, content⟩, slot, rfl⟩ := Option.map_eq_some_iff.mp bare
    have current : arena.generationAt index = generation := by simp [generationAt, slot]
    refine .inl ⟨index, rest, generation, rfl, slot, ?_⟩
    simp [Arena.insert, vacant, current, List.modify_eq_set_getElem?, slot]

/-- The slot that an object takes had no object. -/
theorem content_insert (tidy : arena.Tidy) (object : α)
    (room : (arena.insert object).2.slots.length ≤ UInt32.size) :
    arena.slots[(arena.insert object).1.index.toNat]?.bind Slot.content = none := by
  rcases tidy.insert_cases object with ⟨index, rest, generation, -, slot, inserted⟩ | ⟨-, inserted⟩
  · simp [inserted, slot]
  · rw [inserted, List.length_append, List.length_singleton] at room
    simp [inserted, UInt32.toNat_ofNat_of_lt' room]

/-- The handle of an object has the generation of the slot that it takes. -/
theorem generationAt_insert (tidy : arena.Tidy) (object : α)
    (room : (arena.insert object).2.slots.length ≤ UInt32.size) :
    arena.generationAt (arena.insert object).1.index = (arena.insert object).1.generation := by
  rcases tidy.insert_cases object with ⟨index, rest, generation, -, slot, inserted⟩ | ⟨-, inserted⟩
  · simp [inserted, generationAt, slot]
  · rw [inserted, List.length_append, List.length_singleton] at room
    simp [inserted, generationAt, UInt32.toNat_ofNat_of_lt' room]

/-- Inserting fills the slot of the handle and leaves the other slots as they were. -/
theorem getElem?_insert (tidy : arena.Tidy) (object : α)
    (room : (arena.insert object).2.slots.length ≤ UInt32.size) (place : Nat) :
    (arena.insert object).2.slots[place]? =
      if place = (arena.insert object).1.index.toNat then
        some ⟨(arena.insert object).1.generation, some object⟩
      else arena.slots[place]? := by
  rcases tidy.insert_cases object with ⟨index, rest, generation, -, slot, inserted⟩ | ⟨-, inserted⟩
  · have within : index.toNat < arena.slots.length := (List.getElem?_eq_some_iff.mp slot).1
    by_cases here : place = index.toNat
    · simp [inserted, here, within]
    · simp [inserted, here, Ne.symm here]
  · rw [inserted, List.length_append, List.length_singleton] at room
    simp only [inserted, UInt32.toNat_ofNat_of_lt' room]
    by_cases here : place = arena.slots.length
    · simp [here]
    · rw [if_neg here, List.getElem?_append]
      split
      · rfl
      · have beyond : place - arena.slots.length ≠ 0 := by omega
        rw [List.getElem?_eq_none (Nat.pos_of_ne_zero beyond), List.getElem?_eq_none (by omega)]

/-! ### Each operation keeps account -/

theorem insert (tidy : arena.Tidy) (object : α)
    (room : (arena.insert object).2.slots.length ≤ UInt32.size) :
    (arena.insert object).2.Tidy := by
  rcases tidy.insert_cases object with
    ⟨index, rest, generation, vacant, slot, inserted⟩ | ⟨vacant, inserted⟩
  · have within : index.toNat < arena.slots.length := (List.getElem?_eq_some_iff.mp slot).1
    have stored : arena.slots[index.toNat] = ⟨generation, none⟩ :=
      (List.getElem?_eq_some_iff.mp slot).2
    obtain ⟨fresh, apart⟩ := List.nodup_cons.mp (vacant ▸ tidy.apart)
    refine ⟨room, by rw [inserted]; exact apart, fun other => ?_, ?_, fun among => ?_⟩
    · have listed := tidy.vacant other
      by_cases here : other = index
      · subst here
        simp [inserted, fresh, within]
      · have apart : index.toNat ≠ other.toNat := fun same =>
          here (UInt32.toNat_inj.mp same).symm
        rw [vacant, List.mem_cons, or_iff_right here] at listed
        simpa [inserted, apart] using listed
    · simp [inserted, tidy.size, List.countP_set within, stored]
    · simp only [inserted]
      intro member
      rcases List.mem_or_eq_of_mem_set member with old | new
      · exact tidy.started among old
      · rw [new]
        exact tidy.started ⟨generation, none⟩ (List.mem_of_getElem? slot)
  · refine ⟨room, by rw [inserted]; exact .nil, fun other => ?_, ?_, fun among => ?_⟩
    · rw [tidy.getElem?_insert object room]
      split
      · simp [inserted]
      · rw [← tidy.vacant, vacant, inserted]
    · simp [inserted, tidy.size]
    · simp only [inserted]
      intro member
      rcases List.mem_append.mp member with old | new
      · exact tidy.started among old
      · rw [List.mem_singleton.mp new]
        exact (by decide : (1 : UInt32) ≠ 0)

theorem take (tidy : arena.Tidy) (handle : Handle tag) : (arena.take handle).2.Tidy := by
  cases found : arena.get? handle with
  | none => rwa [take_of_get?_eq_none found]
  | some object =>
    have slot := get?_eq_some_iff.mp found
    have within : handle.index.toNat < arena.slots.length := (List.getElem?_eq_some_iff.mp slot).1
    have stored : arena.slots[handle.index.toNat] = ⟨handle.generation, some object⟩ :=
      (List.getElem?_eq_some_iff.mp slot).2
    have fresh : handle.index ∉ arena.vacant := by
      rw [tidy.vacant]
      simp [slot]
    have emptied : (arena.take handle).2 =
        { slots := arena.slots.set handle.index.toNat ⟨nextGeneration handle.generation, none⟩
          vacant := handle.index :: arena.vacant
          size := arena.size - 1 } := by
      simp [take_of_get?_eq_some found, List.modify_eq_set_getElem?, slot]
    rw [emptied]
    refine ⟨by simpa using tidy.fits, List.nodup_cons.mpr ⟨fresh, tidy.apart⟩, fun other => ?_, ?_,
      fun among member => ?_⟩
    · rw [List.mem_cons, tidy.vacant]
      by_cases here : other = handle.index
      · simp [here, within]
      · have apart : handle.index.toNat ≠ other.toNat := fun same =>
          here (UInt32.toNat_inj.mp same).symm
        simp [here, apart]
    · simp [tidy.size, List.countP_set within, stored]
    · rcases List.mem_or_eq_of_mem_set member with old | new
      · exact tidy.started among old
      · rw [new]
        exact nextGeneration_ne_zero _

theorem drainSlots (tidy : arena.Tidy) (indices : List Nat) :
    (Arena.drainSlots indices arena).2.Tidy := by
  induction indices generalizing arena with
  | nil => exact tidy
  | cons index rest ih =>
    rw [drainSlots_cons]
    cases arena.slots[index]? with
    | none => exact ih tidy
    | some slot => exact ih (tidy.take _)

end Tidy

/-- Whether an arena keeps account of its slots does not depend on what the objects are. -/
theorem tidy_faces {β : Type} {face : α → β} {arena : Arena tag α} :
    (arena.faces face).Tidy ↔ arena.Tidy := by
  have contents : ∀ place : Nat, (arena.faces face).slots[place]?.map Slot.content = some none ↔
      arena.slots[place]?.map Slot.content = some none := by
    intro place
    cases found : arena.slots[place]? <;> simp [faces, found]
  have filled : (arena.faces face).slots.countP (fun slot => slot.content.isSome) =
      arena.slots.countP fun slot => slot.content.isSome := by
    simp [faces, List.countP_map, Function.comp_def]
  have length : (arena.faces face).slots.length = arena.slots.length := by simp [faces]
  constructor
  · intro tidy
    refine ⟨length ▸ tidy.fits, tidy.apart, fun index => ?_, ?_, fun slot among => ?_⟩
    · rw [← contents]
      exact tidy.vacant index
    · rw [← filled]
      exact tidy.size
    · exact tidy.started _ (List.mem_map_of_mem among)
  · intro tidy
    refine ⟨length ▸ tidy.fits, tidy.apart, fun index => ?_, ?_, fun slot among => ?_⟩
    · rw [contents]
      exact tidy.vacant index
    · rw [filled]
      exact tidy.size
    · obtain ⟨behind, member, rfl⟩ := List.mem_map.mp among
      exact tidy.started behind member

/-- Changes that do not show keep account. -/
theorem Tidy.of_faces {arena after : Arena tag α} (tidy : arena.Tidy)
    (same : after.faces (fun _ => ()) = arena.faces fun _ => ()) : after.Tidy :=
  tidy_faces.mp (same ▸ tidy_faces.mpr tidy)

theorem faces_modifyPair {β : Type} {face : α → β} (same : ∀ one other, face one = face other)
    (arena : Arena tag α) (first second : Handle tag) (change : α × α → α × α) :
    (arena.modifyPair first second change).faces face = arena.faces face := by
  unfold modifyPair
  split
  · rfl
  · rw [faces_modify fun _ => same _ _, faces_modify fun _ => same _ _]

/-- **One operation keeps account**, unless it runs out of indices. -/
theorem Tidy.perform {arena : Arena tag α} (tidy : arena.Tidy) (operation : Operation tag α)
    (room : (arena.perform operation).2.slots.length ≤ UInt32.size) :
    (arena.perform operation).2.Tidy := by
  cases operation with
  | insert object => exact tidy.insert object room
  | modify handle change => exact tidy.of_faces (faces_modify (by simp) arena handle)
  | modifyPair first second change =>
    exact tidy.of_faces (faces_modifyPair (fun _ _ => rfl) arena first second change)
  | modifyAll change => exact tidy.of_faces (faces_modifyAll (by simp) arena)
  | remove handle => exact tidy.take handle
  | drain => exact tidy.drainSlots _
  | get | contains | entries | handles | size | isEmpty => exact tidy

theorem Tidy.run {arena : Arena tag α} (tidy : arena.Tidy) (operations : List (Operation tag α))
    (room : (run operations arena).2.slots.length ≤ UInt32.size) :
    (Arena.run operations arena).2.Tidy := by
  induction operations generalizing arena with
  | nil => exact tidy
  | cons operation rest ih =>
    exact ih (tidy.perform operation (Nat.le_trans (length_slots_le_run rest _) room)) room

end Arena

end ComputeHost
