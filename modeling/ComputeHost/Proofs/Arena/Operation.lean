/-
**Operations on arenas.**

Every operation that an arena takes, as a value; `Arena.perform` carries it out and gives a reply. A
run of an arena is a list of operations, each on the arena that the one before left.

Objects are changed through one handle, through two at once (`modifyPair`), or all of them, each by
its own handle (`modifyAll`, of which `Arena.map` is the case that ignores the handle).

* `length_slots_le_run` — no operation gives a slot up, so a bound on the slots at the end of a run
  holds all along it.
-/

import ComputeHost.Proofs.Arena.Packed

set_option linter.unusedSectionVars false

namespace ComputeHost.Arena

variable {κ : Type} [DecidableEq κ] {tag : κ} {α : Type}

/-! ### Changing several objects -/

/-- Changes the objects of two different live handles together. -/
def modifyPair (arena : Arena tag α) (first second : Handle tag) (change : α × α → α × α) :
    Arena tag α :=
  match arena.getPair? first second with
  | none => arena
  | some pair =>
    (arena.modify first fun _ => (change pair).1).modify second fun _ => (change pair).2

/-- Changes every live object, each by its handle. -/
def modifyAll (arena : Arena tag α) (change : Handle tag → α → α) : Arena tag α :=
  { arena with
    slots := arena.slots.mapIdx fun index slot =>
      { slot with
        content := slot.content.map (change ⟨UInt32.ofNat index, slot.generation⟩) } }

/-- Changing every object alike is `map`. -/
theorem modifyAll_const (arena : Arena tag α) (change : α → α) :
    arena.modifyAll (fun _ => change) = arena.map change := by
  unfold modifyAll map
  congr 1
  apply List.ext_getElem?
  intro index
  simp

/-! ### Operations as values -/

/-- An operation on an arena. -/
inductive Operation {κ : Type} (tag : κ) (α : Type)
  | insert (object : α)
  | get (handle : Handle tag)
  | modify (handle : Handle tag) (change : α → α)
  | modifyPair (first second : Handle tag) (change : α × α → α × α)
  | modifyAll (change : Handle tag → α → α)
  | remove (handle : Handle tag)
  | contains (handle : Handle tag)
  | entries
  | handles
  | drain
  | size
  | isEmpty

/-- What an operation gives. Operations that change objects give what these were before. -/
inductive Reply {κ : Type} (tag : κ) (α : Type)
  | handle (handle : Handle tag)
  | object (found : Option α)
  | pair (found : Option (α × α))
  | entries (listed : List (Handle tag × α))
  | handles (listed : List (Handle tag))
  | objects (listed : List α)
  | count (number : Nat)
  | truth (value : Bool)

/-- Carries out an operation. -/
def perform (arena : Arena tag α) : Operation tag α → Reply tag α × Arena tag α
  | .insert object => (.handle (arena.insert object).1, (arena.insert object).2)
  | .get handle => (.object (arena.get? handle), arena)
  | .modify handle change => (.object (arena.get? handle), arena.modify handle change)
  | .modifyPair first second change =>
    (.pair (arena.getPair? first second), arena.modifyPair first second change)
  | .modifyAll change => (.entries arena.entries, arena.modifyAll change)
  | .remove handle => (.object (arena.take handle).1, (arena.take handle).2)
  | .contains handle => (.truth (arena.contains handle), arena)
  | .entries => (.entries arena.entries, arena)
  | .handles => (.handles arena.handles, arena)
  | .drain => (.objects arena.drain.1, arena.drain.2)
  | .size => (.count arena.size, arena)
  | .isEmpty => (.truth arena.isEmpty, arena)

/-- The replies to operations in order and the arena after them. -/
def run : List (Operation tag α) → Arena tag α → List (Reply tag α) × Arena tag α
  | [], arena => ([], arena)
  | operation :: rest, arena =>
    ((arena.perform operation).1 :: (run rest (arena.perform operation).2).1,
      (run rest (arena.perform operation).2).2)

theorem run_append (first second : List (Operation tag α)) (arena : Arena tag α) :
    (run (first ++ second) arena).2 = (run second (run first arena).2).2 := by
  induction first generalizing arena with
  | nil => rfl
  | cons operation rest ih => exact ih _

/-! ### Taking objects out -/

/-- Nothing changes where the handle names nothing. -/
theorem take_of_get?_eq_none {arena : Arena tag α} {handle : Handle tag}
    (absent : arena.get? handle = none) : arena.take handle = (none, arena) := by
  simp [take, remove, absent]

theorem take_of_get?_eq_some {arena : Arena tag α} {handle : Handle tag} {object : α}
    (found : arena.get? handle = some object) :
    arena.take handle =
      (some object,
        { slots := arena.slots.modify handle.index.toNat fun slot =>
            { generation := nextGeneration slot.generation, content := none }
          vacant := handle.index :: arena.vacant
          size := arena.size - 1 }) := by
  simp [take, remove, found]

/-- Taking out gives the object that the handle names. -/
theorem fst_take (arena : Arena tag α) (handle : Handle tag) :
    (arena.take handle).1 = arena.get? handle := by
  cases found : arena.get? handle with
  | none => rw [take_of_get?_eq_none found]
  | some object => rw [take_of_get?_eq_some found]

/-- What was taken out is no longer named, and all else is. -/
theorem get?_take (arena : Arena tag α) (target handle : Handle tag) :
    (arena.take target).2.get? handle =
      if handle = target then none else arena.get? handle := by
  cases found : arena.get? target with
  | none =>
    rw [take_of_get?_eq_none found]
    split
    · rename_i same
      rw [same, found]
    · rfl
  | some object =>
    rw [take_of_get?_eq_some found]
    have slot := get?_eq_some_iff.mp found
    by_cases place : handle.index = target.index
    · -- the slot is empty now, and named nothing but `target` before
      have before : handle ≠ target → arena.get? handle = none := by
        intro other
        refine Option.eq_none_iff_forall_ne_some.mpr fun object' found' => other ?_
        exact eq_of_index_eq (contains_iff.mpr ⟨object', found'⟩)
          (contains_iff.mpr ⟨object, found⟩) place
      by_cases same : handle = target <;> simp_all [get?]
    · have other : handle ≠ target := fun same => place (congrArg Handle.index same)
      have apart : target.index.toNat ≠ handle.index.toNat :=
        fun same => place (UInt32.toNat_inj.mp same).symm
      simp [get?, other, apart]

/-! ### Slots are never given up -/

theorem length_slots_modify (arena : Arena tag α) (handle : Handle tag) (change : α → α) :
    (arena.modify handle change).slots.length = arena.slots.length := by
  unfold modify
  split <;> simp

theorem length_slots_take (arena : Arena tag α) (handle : Handle tag) :
    (arena.take handle).2.slots.length = arena.slots.length := by
  cases found : arena.get? handle with
  | none => rw [take_of_get?_eq_none found]
  | some object => simp [take_of_get?_eq_some found]

/-- Draining a slot is taking out what its current handle names. -/
theorem drainSlots_cons (index : Nat) (rest : List Nat) (arena : Arena tag α) :
    drainSlots (index :: rest) arena =
      match arena.slots[index]? with
      | none => drainSlots rest arena
      | some slot =>
        let after := drainSlots rest (arena.take ⟨UInt32.ofNat index, slot.generation⟩).2
        ((arena.get? ⟨UInt32.ofNat index, slot.generation⟩).toList ++ after.1, after.2) := by
  rw [drainSlots]
  cases arena.slots[index]? with
  | none => rfl
  | some slot => simp only [fst_take]

theorem length_slots_drainSlots (indices : List Nat) (arena : Arena tag α) :
    (drainSlots indices arena).2.slots.length = arena.slots.length := by
  induction indices generalizing arena with
  | nil => rfl
  | cons index rest ih =>
    rw [drainSlots_cons]
    cases arena.slots[index]? with
    | none => exact ih arena
    | some slot => exact (ih _).trans (length_slots_take arena _)

theorem length_slots_modifyPair (arena : Arena tag α) (first second : Handle tag)
    (change : α × α → α × α) :
    (arena.modifyPair first second change).slots.length = arena.slots.length := by
  unfold modifyPair
  split <;> simp only [length_slots_modify]

theorem length_slots_le_insert (arena : Arena tag α) (object : α) :
    arena.slots.length ≤ (arena.insert object).2.slots.length := by
  unfold insert
  split <;> simp

theorem length_slots_le_perform (arena : Arena tag α) (operation : Operation tag α) :
    arena.slots.length ≤ (arena.perform operation).2.slots.length := by
  cases operation with
  | insert object => exact length_slots_le_insert arena object
  | modify handle change => exact Nat.le_of_eq (length_slots_modify arena handle change).symm
  | modifyPair first second change =>
    exact Nat.le_of_eq (length_slots_modifyPair arena first second change).symm
  | modifyAll change => simp [perform, Arena.modifyAll]
  | remove handle => exact Nat.le_of_eq (length_slots_take arena handle).symm
  | drain => exact Nat.le_of_eq (length_slots_drainSlots _ arena).symm
  | get | contains | entries | handles | size | isEmpty => exact Nat.le_refl _

theorem length_slots_le_run (operations : List (Operation tag α)) (arena : Arena tag α) :
    arena.slots.length ≤ (run operations arena).2.slots.length := by
  induction operations generalizing arena with
  | nil => exact Nat.le_refl _
  | cons operation rest ih => exact Nat.le_trans (length_slots_le_perform arena operation) (ih _)

end ComputeHost.Arena
