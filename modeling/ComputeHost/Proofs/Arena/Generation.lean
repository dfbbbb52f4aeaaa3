/-
**Old handles and the cycle of generations.**

A slot starts in generation 1 and goes on by one each time its object is taken out; after the last
generation comes 1 again. So the generations of a slot go round in a cycle of `UInt32.size - 1`, and
a handle is live exactly when its slot is filled and has been emptied a multiple of that many times
since the handle was issued.

* `iterate_nextGeneration_eq_iff` — when a generation comes round.
* `Tidy.generationAt_run` — the generation of a slot, counted in emptyings along a run.
* `stale_handles` — **an old handle stays dead until the generations of its slot have gone round**;
  no live handle has generation zero, so no argument below `UInt32.size` names an object.
-/

import ComputeHost.Host.Binding
import ComputeHost.Proofs.Arena.Tidy
import Mathlib.Logic.Function.Iterate

set_option linter.unusedSectionVars false

namespace ComputeHost.Arena

variable {κ : Type} [DecidableEq κ] {tag : κ} {α : Type}

/-! ### The cycle of generations -/

theorem toNat_nextGeneration {generation : UInt32} (started : generation ≠ 0) :
    (nextGeneration generation).toNat = generation.toNat % (UInt32.size - 1) + 1 := by
  have positive : generation.toNat ≠ 0 := fun zero => started (UInt32.toNat_inj.mp zero)
  have small := generation.toNat_lt
  unfold nextGeneration
  split
  · rename_i wraps
    have sum := congrArg UInt32.toNat wraps
    simp only [UInt32.toNat_add, UInt32.toNat_one, UInt32.toNat_zero] at sum
    have last : generation.toNat = UInt32.size - 1 := by
      rw [UInt32.size]
      omega
    rw [last]
    rfl
  · rename_i goes
    have sum : (generation + 1).toNat ≠ 0 := fun zero => goes (UInt32.toNat_inj.mp zero)
    simp only [UInt32.toNat_add, UInt32.toNat_one] at sum ⊢
    rw [UInt32.size, Nat.mod_eq_of_lt (b := 4294967296 - 1) (by omega)]
    omega

/-- The generation after so many steps, in the cycle that leaves out zero. -/
theorem toNat_iterate_nextGeneration {generation : UInt32} (started : generation ≠ 0)
    (steps : Nat) :
    (nextGeneration^[steps] generation).toNat =
      (generation.toNat - 1 + steps) % (UInt32.size - 1) + 1 := by
  have positive : generation.toNat ≠ 0 := fun zero => started (UInt32.toNat_inj.mp zero)
  have small := generation.toNat_lt
  induction steps generalizing generation with
  | zero =>
    rw [Function.iterate_zero, id_eq, UInt32.size, Nat.mod_eq_of_lt (by omega)]
    omega
  | succ steps ih =>
    have next := toNat_nextGeneration started
    rw [Function.iterate_succ_apply,
      ih (nextGeneration_ne_zero _) (by omega) (UInt32.toNat_lt _), next, Nat.add_sub_cancel,
      Nat.mod_add_mod]
    congr 2
    omega

/-- A generation comes round after a multiple of the length of the cycle. -/
theorem iterate_nextGeneration_eq_iff {generation : UInt32} (started : generation ≠ 0)
    (steps : Nat) :
    nextGeneration^[steps] generation = generation ↔ UInt32.size - 1 ∣ steps := by
  have positive : generation.toNat ≠ 0 := fun zero => started (UInt32.toNat_inj.mp zero)
  have small := generation.toNat_lt
  rw [← UInt32.toNat_inj, toNat_iterate_nextGeneration started, UInt32.size]
  omega

/-! ### Emptyings of a slot -/

/-- Whether the slot at the index has an object. -/
def occupied (arena : Arena tag α) (index : UInt32) : Bool :=
  (arena.slots[index.toNat]?.bind Slot.content).isSome

/-- Whether the operation takes an object out of the slot at the index. -/
def empties (arena : Arena tag α) (index : UInt32) : Operation tag α → Bool
  | .remove handle => handle.index == index && arena.contains handle
  | .drain => arena.occupied index
  | _ => false

/-- How often the operations take an object out of the slot at the index. -/
def emptyings (index : UInt32) : List (Operation tag α) → Arena tag α → Nat
  | [], _ => 0
  | operation :: rest, arena =>
    (arena.empties index operation).toNat + emptyings index rest (arena.perform operation).2

/-- A handle is live while its slot has an object and is in its generation. -/
theorem contains_eq (arena : Arena tag α) (handle : Handle tag) :
    arena.contains handle =
      (arena.occupied handle.index && arena.generationAt handle.index == handle.generation) := by
  unfold contains get? occupied generationAt
  cases arena.slots[handle.index.toNat]? with
  | none => rfl
  | some slot =>
    by_cases same : slot.generation = handle.generation <;> simp [same]

theorem occupied_faces {β : Type} (face : α → β) (arena : Arena tag α) (index : UInt32) :
    (arena.faces face).occupied index = arena.occupied index := by
  unfold occupied faces
  cases found : arena.slots[index.toNat]? <;> simp [found]

theorem generationAt_faces {β : Type} (face : α → β) (arena : Arena tag α) (index : UInt32) :
    (arena.faces face).generationAt index = arena.generationAt index := by
  unfold generationAt faces
  cases found : arena.slots[index.toNat]? <;> simp [found]

/-- A slot that is emptied goes on by one generation. -/
theorem generationAt_of_emptied {arena after : Arena tag α} {index : UInt32}
    (slot : after.slots[index.toNat]? = arena.slots[index.toNat]?.map Slot.emptied) :
    after.generationAt index =
      if arena.occupied index then nextGeneration (arena.generationAt index)
      else arena.generationAt index := by
  unfold generationAt occupied
  rw [slot]
  obtain _ | ⟨generation, _ | object⟩ := arena.slots[index.toNat]? <;> rfl

namespace Tidy

variable {arena : Arena tag α}

/-- **What one operation does to a slot**: it goes on by one generation if it is emptied and else
stays in its generation; and an object in it stays there unless the slot is emptied. -/
theorem slot_perform (tidy : arena.Tidy) (operation : Operation tag α)
    (room : (arena.perform operation).2.slots.length ≤ UInt32.size) (index : UInt32) :
    (arena.perform operation).2.generationAt index =
        (if arena.empties index operation then nextGeneration (arena.generationAt index)
        else arena.generationAt index) ∧
      (arena.empties index operation = false → arena.occupied index = true →
        (arena.perform operation).2.occupied index = true) := by
  -- operations that leave the slots but for what the objects are
  have quiet : ∀ after : Arena tag α, after.faces (fun _ => ()) = arena.faces (fun _ => ()) →
      after.generationAt index = arena.generationAt index ∧
        (false = false → arena.occupied index = true → after.occupied index = true) := by
    intro after same
    refine ⟨?_, fun _ filled => ?_⟩
    · rw [← generationAt_faces fun _ => (), same, generationAt_faces]
    · rwa [← occupied_faces fun _ => (), same, occupied_faces]
  cases operation with
  | insert object =>
    have after := tidy.getElem?_insert object room index.toNat
    have current := tidy.generationAt_insert object room
    by_cases here : index = (arena.insert object).1.index
    · subst here
      rw [if_pos rfl] at after
      refine ⟨?_, fun _ _ => by simp [occupied, Arena.perform, after]⟩
      simp only [empties, Bool.false_eq_true, if_false, current]
      simp [generationAt, Arena.perform, after]
    · have apart : index.toNat ≠ (arena.insert object).1.index.toNat := fun same =>
        here (UInt32.toNat_inj.mp same)
      rw [if_neg apart] at after
      refine ⟨?_, fun _ filled => ?_⟩
      · simp [empties, generationAt, Arena.perform, after]
      · rwa [occupied, Arena.perform, after]
  | modify handle change => exact quiet _ (faces_modify (by simp) arena handle)
  | modifyPair first second change =>
    exact quiet _ (faces_modifyPair (fun _ _ => rfl) arena first second change)
  | modifyAll change => exact quiet _ (faces_modifyAll (by simp) arena)
  | remove handle =>
    have after := getElem?_take arena handle index.toNat
    by_cases emptied : arena.empties index (.remove handle) = true
    · obtain ⟨same, live⟩ : handle.index = index ∧ arena.contains handle = true := by
        simpa [empties] using emptied
      subst same
      rw [if_pos ⟨rfl, live⟩] at after
      have filled : arena.occupied handle.index = true := by
        rw [contains_eq, Bool.and_eq_true] at live
        exact live.1
      refine ⟨?_, fun kept => absurd (emptied.symm.trans kept) (by decide)⟩
      rw [if_pos emptied, Arena.perform, generationAt_of_emptied after, if_pos filled]
    · have apart : ¬ (index.toNat = handle.index.toNat ∧ arena.contains handle = true) := by
        rintro ⟨same, live⟩
        exact emptied (by simp [empties, UInt32.toNat_inj.mp same, live])
      rw [if_neg apart] at after
      refine ⟨?_, fun _ filled => ?_⟩
      · rw [if_neg emptied, Arena.perform, generationAt, after, ← generationAt]
      · rwa [occupied, Arena.perform, after]
  | drain =>
    have after := getElem?_drain tidy.fits index.toNat
    refine ⟨generationAt_of_emptied after, fun kept filled => ?_⟩
    exact absurd (filled.symm.trans kept) (by decide)
  | get | contains | entries | handles | size | isEmpty => exact quiet _ rfl

/-- **The generation of a slot along a run**, counted in emptyings. -/
theorem generationAt_run (tidy : arena.Tidy) (operations : List (Operation tag α))
    (room : (Arena.run operations arena).2.slots.length ≤ UInt32.size) (index : UInt32) :
    (Arena.run operations arena).2.generationAt index =
      nextGeneration^[emptyings index operations arena] (arena.generationAt index) := by
  induction operations generalizing arena with
  | nil => rfl
  | cons operation rest ih =>
    have soon := Nat.le_trans (length_slots_le_run rest _) room
    rw [Arena.run, ih (tidy.perform operation soon) room, emptyings, Nat.add_comm,
      Function.iterate_add_apply, (tidy.slot_perform operation soon index).1]
    cases arena.empties index operation <;> rfl

/-- A slot that is not emptied keeps its object. -/
theorem occupied_run (tidy : arena.Tidy) (operations : List (Operation tag α))
    (room : (Arena.run operations arena).2.slots.length ≤ UInt32.size) {index : UInt32}
    (kept : emptyings index operations arena = 0) (filled : arena.occupied index = true) :
    (Arena.run operations arena).2.occupied index = true := by
  induction operations generalizing arena with
  | nil => exact filled
  | cons operation rest ih =>
    have soon := Nat.le_trans (length_slots_le_run rest _) room
    obtain ⟨now, later⟩ := Nat.add_eq_zero_iff.mp kept
    have stays := (tidy.slot_perform operation soon index).2 (by simpa using now) filled
    exact ih (tidy.perform operation soon) room later stays

theorem generation_ne_zero (tidy : arena.Tidy) {handle : Handle tag}
    (live : arena.contains handle = true) : handle.generation ≠ 0 := by
  obtain ⟨object, found⟩ := contains_iff.mp live
  exact tidy.started _ (List.mem_of_getElem? (get?_eq_some_iff.mp found))

/-- A word below `UInt32.size` is a handle of generation zero. -/
theorem contains_small (tidy : arena.Tidy) {word : Nat} (small : word < UInt32.size) :
    arena.contains (.ofBits (UInt64.ofNat word)) = false := by
  refine Bool.eq_false_iff.mpr fun live => tidy.generation_ne_zero live ?_
  have same : (UInt64.ofNat word).toNat = word :=
    UInt64.toNat_ofNat_of_lt' (Nat.lt_trans small (by decide))
  rw [Handle.ofBits, same, Nat.div_eq_of_lt small]
  rfl

end Tidy

/-! ### Handles as they age -/

/-- **A handle whose slot has been emptied so many times since it was issued.** -/
structure Aged (handle : Handle tag) (emptied : Nat) (now : Arena tag α) : Prop where
  live_iff : now.contains handle = true ↔
    now.occupied handle.index = true ∧ UInt32.size - 1 ∣ emptied
  /-- It is live as long as its slot was not emptied. -/
  kept : emptied = 0 → now.contains handle = true
  /-- It is dead once its slot was emptied, until the generations have gone round. -/
  dead : emptied ≠ 0 → emptied < UInt32.size - 1 → now.contains handle = false
  /-- No other object gets it until then. -/
  fresh : emptied < UInt32.size - 1 → ∀ next : α,
    (now.insert next).2.slots.length ≤ UInt32.size → (now.insert next).1 ≠ handle

/-- A handle of a live object, after a run. -/
theorem Tidy.aged {arena : Arena tag α} (tidy : arena.Tidy) {handle : Handle tag}
    (live : arena.contains handle = true) (operations : List (Operation tag α))
    (room : (Arena.run operations arena).2.slots.length ≤ UInt32.size) :
    Aged handle (emptyings handle.index operations arena) (Arena.run operations arena).2 := by
  have started := tidy.generation_ne_zero live
  rw [contains_eq, Bool.and_eq_true, beq_iff_eq] at live
  obtain ⟨filled, current⟩ := live
  have generation := tidy.generationAt_run operations room handle.index
  rw [current] at generation
  have live_iff : (Arena.run operations arena).2.contains handle = true ↔
      (Arena.run operations arena).2.occupied handle.index = true ∧
        UInt32.size - 1 ∣ emptyings handle.index operations arena := by
    rw [contains_eq, Bool.and_eq_true, beq_iff_eq, generation,
      iterate_nextGeneration_eq_iff started]
  have kept : emptyings handle.index operations arena = 0 →
      (Arena.run operations arena).2.contains handle = true := fun none_taken =>
    live_iff.mpr ⟨tidy.occupied_run operations room none_taken filled, none_taken ▸ Nat.dvd_zero _⟩
  refine ⟨live_iff, kept, fun some_taken few => ?_, fun few next later same => ?_⟩
  · refine Bool.eq_false_iff.mpr fun alive => ?_
    exact some_taken (Nat.eq_zero_of_dvd_of_lt (live_iff.mp alive).2 few)
  · -- a slot in the generation of the handle was never emptied, so it is not free for an object
    have after := tidy.run operations room
    have again := after.generationAt_insert next later
    rw [same, generation, iterate_nextGeneration_eq_iff started] at again
    have alive := kept (Nat.eq_zero_of_dvd_of_lt again few)
    have bare := after.content_insert next later
    rw [same] at bare
    simp [contains_eq, occupied, bare] at alive

/-- **Stale handles.** After every run in which `object` was put into an arena, its handle is live
exactly if its slot has an object and was emptied a multiple of `UInt32.size - 1` times since: from
the first emptying until then it neither names an object nor is given to one. No live handle has
generation zero, so neither do eight bytes of a number below `UInt32.size` name an object nor does
a kernel get a buffer for them. Handles and words of 64 bits determine each other. -/
theorem stale_handles (before : List (Operation tag α)) (object : α)
    (later : List (Operation tag α))
    (room : (run (before ++ .insert object :: later) empty).2.slots.length ≤ UInt32.size) :
    let issued := (run before empty).2.insert object
    let now := (run later issued.2).2
    Aged issued.1 (emptyings issued.1.index later issued.2) now ∧
      (∀ handle, now.contains handle = true → handle.generation ≠ 0) ∧
      (∀ argument : Bytes, argument.length = 8 → Bytes.ofLittleEndian argument < UInt32.size →
        now.contains (.ofBits (UInt64.ofNat (Bytes.ofLittleEndian argument))) = false) ∧
      (∀ (operations : List (Operation ObjectKind.buffer Buffer)) (binding : Binding)
        (argument : Bytes), binding.buffers = (run operations empty).2 →
        binding.buffers.slots.length ≤ UInt32.size →
        Bytes.ofLittleEndian argument < UInt32.size → binding.referenced? argument = none) ∧
      (∀ handle : Handle tag, Handle.ofBits handle.toBits = handle) ∧
      (∀ bits : UInt64, (Handle.ofBits bits : Handle tag).toBits = bits) := by
  intro issued now
  have whole : (run (before ++ .insert object :: later) empty).2 = now := run_append _ _ _
  rw [whole] at room
  have full : issued.2.slots.length ≤ UInt32.size :=
    Nat.le_trans (length_slots_le_run later _) room
  have first : (run before (empty : Arena tag α)).2.Tidy :=
    Tidy.empty.run before (Nat.le_trans (length_slots_le_insert _ object) full)
  have tidy : issued.2.Tidy := first.insert object full
  have live : issued.2.contains issued.1 = true := by
    have names := first.getElem?_insert object full issued.1.index.toNat
    rw [if_pos rfl] at names
    exact contains_iff.mpr ⟨object, get?_eq_some_iff.mpr names⟩
  have after := tidy.run later room
  refine ⟨tidy.aged live later room, fun _ => after.generation_ne_zero,
    fun argument _ small => after.contains_small small, ?_, Handle.ofBits_toBits,
    Handle.toBits_ofBits⟩
  intro operations binding argument stored short small
  have buffers : binding.buffers.Tidy := by
    rw [stored] at short ⊢
    exact Tidy.empty.run operations short
  unfold Binding.referenced?
  split
  · exact get?_of_not_contains (buffers.contains_small small)
  · rfl

/-- Two objects, of which the second is taken out and its slot used again. -/
def reusing : List (Operation () Nat) :=
  [.insert 10, .insert 20, .remove ⟨1, 1⟩, .insert 30]

theorem stale_handles_reusing :
    (run reusing empty).2.slots.length ≤ UInt32.size ∧
      Aged (⟨1, 1⟩ : Handle ()) 1 (run reusing empty).2 ∧
      (run reusing empty).2.occupied 1 = true ∧
      (run reusing empty).2.contains ⟨1, 1⟩ = false := by
  have room : (run reusing empty).2.slots.length ≤ UInt32.size := by decide
  have aged : Aged (⟨1, 1⟩ : Handle ()) 1 (run reusing empty).2 :=
    (stale_handles [.insert 10] 20 [.remove ⟨1, 1⟩, .insert 30] room).1
  exact ⟨room, aged, by decide, aged.dead (by decide) (by decide)⟩

end ComputeHost.Arena
