/-
**What an arena shows of its objects.**

`Arena.faces` keeps the slots, the handles and the order of an arena, and of each object only what a
face shows. A change that the face does not show leaves the faces as they were.

* `get?_faces`, `entries_faces` — looking through a face.
* `faces_modify`, `faces_map`, `faces_modifyAll` — changes that do not show.
-/

import ComputeHost.Proofs.Arena.Operation

set_option linter.unusedSectionVars false

namespace ComputeHost.Arena

variable {κ : Type} [DecidableEq κ] {tag : κ} {α β : Type} {face : α → β}

/-- The arena with the face of each object in its place. -/
def faces (face : α → β) (arena : Arena tag α) : Arena tag β where
  slots := arena.slots.map fun slot => ⟨slot.generation, slot.content.map face⟩
  vacant := arena.vacant
  size := arena.size

/-! ### Looking through a face -/

theorem get?_faces (arena : Arena tag α) (handle : Handle tag) :
    (arena.faces face).get? handle = (arena.get? handle).map face := by
  unfold get? faces
  simp only [List.getElem?_map]
  cases arena.slots[handle.index.toNat]? with
  | none => rfl
  | some slot =>
    simp only [Option.map_some, Option.bind_some]
    split <;> rfl

theorem contains_faces (arena : Arena tag α) (handle : Handle tag) :
    (arena.faces face).contains handle = arena.contains handle := by
  simp [contains, get?_faces]

theorem entries_faces (arena : Arena tag α) :
    (arena.faces face).entries = arena.entries.map fun entry => (entry.1, face entry.2) := by
  unfold entries faces
  rw [List.zipIdx_map, List.filterMap_map, List.map_filterMap]
  congr 1
  funext ⟨⟨generation, content⟩, index⟩
  cases content <;> rfl

theorem handles_faces (arena : Arena tag α) : (arena.faces face).handles = arena.handles := by
  simp [handles, entries_faces, Function.comp_def]

theorem objects_faces (arena : Arena tag α) :
    (arena.faces face).objects = arena.objects.map face := by
  simp [objects, entries_faces, Function.comp_def]

/-! ### Operations -/

/-- A change of one object that its face does not show. -/
theorem faces_modify {change : α → α} (same : ∀ object, face (change object) = face object)
    (arena : Arena tag α) (handle : Handle tag) :
    (arena.modify handle change).faces face = arena.faces face := by
  unfold modify
  split
  · unfold faces
    congr 1
    apply List.ext_getElem?
    intro place
    simp only [List.getElem?_modify, List.getElem?_map]
    cases arena.slots[place]? <;>
      by_cases here : handle.index.toNat = place <;> simp [here, Function.comp_def, same]
  · rfl

/-- Changes of all objects that their faces do not show. -/
theorem faces_modifyAll {change : Handle tag → α → α}
    (same : ∀ handle object, face (change handle object) = face object) (arena : Arena tag α) :
    (arena.modifyAll change).faces face = arena.faces face := by
  unfold modifyAll faces
  congr 1
  apply List.ext_getElem?
  intro place
  cases found : arena.slots[place]? <;> simp [found, Function.comp_def, same]

theorem faces_map {change : α → α} (same : ∀ object, face (change object) = face object)
    (arena : Arena tag α) : (arena.map change).faces face = arena.faces face := by
  rw [← modifyAll_const]
  exact faces_modifyAll (fun _ => same) arena

/-- The faces of a packed arena are packed. -/
theorem packed_faces {arena : Arena tag α} : (arena.faces face).Packed ↔ arena.Packed := by
  constructor
  · intro packed
    refine ⟨packed.vacant, fun slot member => ?_⟩
    have shown := packed.filled _ (List.mem_map_of_mem member)
    simpa using shown
  · intro packed
    refine ⟨packed.vacant, fun slot member => ?_⟩
    obtain ⟨behind, among, rfl⟩ := List.mem_map.mp member
    simpa using packed.filled behind among

end ComputeHost.Arena
