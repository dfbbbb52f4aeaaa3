/-
**Objects that list what belongs to them.**

An object of one arena may name an owner in another, and the owner lists what belongs to it. `Owns`
says that the two agree: every owner named is live, and an owner lists exactly the handles of the
objects that name it, in the order in which they were made.

* `Owns.insert` — a new object whose handle is put at the end of its owner's list.
* `Owns.insertOwner` — a new owner, with an empty list.
* `Owns.congr` — agreement depends on the lists and on who names whom only.
-/

import ComputeHost.Proofs.Arena.Face

set_option linter.unusedSectionVars false

namespace ComputeHost.Arena

variable {κ : Type} [DecidableEq κ] {tag place : κ} {α β : Type}

/-! ### One more object, in slot order -/

namespace Packed

variable {arena : Arena tag α}

theorem entries_insert (packed : arena.Packed) (object : α) :
    (arena.insert object).2.entries = arena.entries ++ [((arena.insert object).1, object)] := by
  rw [packed.insert_eq, entries, entries, List.zipIdx_append, List.filterMap_append]
  simp

theorem handles_insert (packed : arena.Packed) (object : α) :
    (arena.insert object).2.handles = arena.handles ++ [(arena.insert object).1] := by
  rw [handles, handles, packed.entries_insert, List.map_append]
  rfl

/-- What was live is live with one more object. -/
theorem contains_insert (packed : arena.Packed) (object : α) {handle : Handle tag}
    (live : arena.contains handle = true) : (arena.insert object).2.contains handle = true := by
  obtain ⟨held, found⟩ := contains_iff.mp live
  refine contains_iff.mpr ⟨held, ?_⟩
  rw [packed.get?_insert, found, Option.some_or]

theorem contains_insert_self (packed : arena.Packed) (object : α) :
    (arena.insert object).2.contains (arena.insert object).1 = true := by
  rw [contains, packed.get?_insert, if_pos rfl]
  simp

end Packed

theorem contains_modify (arena : Arena tag α) (target : Handle tag) (change : α → α)
    (handle : Handle tag) :
    (arena.modify target change).contains handle = arena.contains handle := by
  rw [contains, contains, get?_modify]
  split
  · rename_i here
    rw [here, Option.isSome_map]
  · rfl

/-! ### The handles of some objects -/

/-- The handles of the objects for which the condition holds, in slot order. -/
def handlesWhere (arena : Arena tag α) (holds : α → Bool) : List (Handle tag) :=
  (arena.entries.filter fun entry => holds entry.2).map Prod.fst

theorem handlesWhere_insert {arena : Arena tag α} (packed : arena.Packed) (object : α)
    (holds : α → Bool) :
    (arena.insert object).2.handlesWhere holds =
      arena.handlesWhere holds ++ if holds object then [(arena.insert object).1] else [] := by
  rw [handlesWhere, packed.entries_insert, List.filter_append, List.map_append, handlesWhere]
  cases held : holds object <;> simp [held]

theorem handlesWhere_eq_nil {arena : Arena tag α} {holds : α → Bool}
    (none_holds : ∀ object ∈ arena.objects, holds object = false) :
    arena.handlesWhere holds = [] := by
  rw [handlesWhere, List.map_eq_nil_iff, List.filter_eq_nil_iff]
  intro entry among
  simp [none_holds entry.2 (List.mem_map_of_mem among)]

theorem handlesWhere_sublist (arena : Arena tag α) (holds : α → Bool) :
    (arena.handlesWhere holds).Sublist arena.handles :=
  List.filter_sublist.map Prod.fst

/-! ### Owners -/

/-- **Owners list what belongs to them.** -/
structure Owns (owners : Arena tag β) (owned : Arena place α) (owner : α → Handle tag)
    (listed : β → List (Handle place)) : Prop where
  live : ∀ object ∈ owned.objects, owners.contains (owner object) = true
  listed : ∀ handle entry, owners.get? handle = some entry →
    listed entry = owned.handlesWhere fun object => owner object = handle

namespace Owns

variable {owners owners' : Arena tag β} {owned owned' : Arena place α} {owner : α → Handle tag}
  {listed : β → List (Handle place)}

theorem empty : Owns (.empty : Arena tag β) (.empty : Arena place α) owner listed :=
  ⟨nofun, nofun⟩

/-- The owner of what a handle names. -/
theorem live_of_get? (owns : Owns owners owned owner listed) {handle : Handle place} {object : α}
    (found : owned.get? handle = some object) : owners.contains (owner object) = true :=
  owns.live object (mem_objects_of_get? found)

/-- Agreement depends on the lists and on who names whom only. -/
theorem congr (owns : Owns owners owned owner listed)
    (lists : ∀ handle, (owners'.get? handle).map listed = (owners.get? handle).map listed)
    (names : (owned'.entries.map fun entry => (entry.1, owner entry.2)) =
      owned.entries.map fun entry => (entry.1, owner entry.2)) :
    Owns owners' owned' owner listed := by
  have named : ∀ arena : Arena place α, arena.objects.map owner =
      (arena.entries.map fun entry => (entry.1, owner entry.2)).map Prod.snd := by
    simp [objects]
  have chosen : ∀ (arena : Arena place α) (handle : Handle tag),
      arena.handlesWhere (fun object => owner object = handle) =
        ((arena.entries.map fun entry => (entry.1, owner entry.2)).filter
          fun entry => entry.2 = handle).map Prod.fst := by
    simp [handlesWhere, List.filter_map, Function.comp_def]
  refine ⟨fun object among => ?_, fun handle entry found => ?_⟩
  · have member : owner object ∈ owned.objects.map owner := by
      rw [named, ← names, ← named]
      exact List.mem_map_of_mem among
    obtain ⟨other, there, same⟩ := List.mem_map.mp member
    have live := owns.live other there
    rw [contains, same] at live
    have alike := congrArg Option.isSome (lists (owner object))
    rw [Option.isSome_map, Option.isSome_map] at alike
    rw [contains, alike, live]
  · have alike := lists handle
    rw [found, Option.map_some] at alike
    obtain ⟨earlier, there, same⟩ := Option.map_eq_some_iff.mp alike.symm
    rw [← same, owns.listed handle earlier there, chosen, chosen, names]

/-- A change of an owner that leaves its list. -/
theorem modify (owns : Owns owners owned owner listed) (target : Handle tag) {change : β → β}
    (same : ∀ entry, listed (change entry) = listed entry) :
    Owns (owners.modify target change) owned owner listed := by
  refine owns.congr (fun handle => ?_) rfl
  rw [get?_modify]
  split
  · rename_i here
    rw [here, Option.map_map]
    exact congrArg (Option.map · _) (funext same)
  · rfl

/-- **A new object**, whose handle goes to the end of its owner's list. -/
theorem insert (owns : Owns owners owned owner listed) (packed : owned.Packed) {object : α}
    (live : owners.contains (owner object) = true) {change : β → β}
    (pushes : ∀ entry, listed (change entry) = listed entry ++ [(owned.insert object).1]) :
    Owns (owners.modify (owner object) change) (owned.insert object).2 owner listed := by
  refine ⟨fun other among => ?_, fun handle entry found => ?_⟩
  · rw [contains_modify]
    rw [packed.objects_insert, List.mem_append, List.mem_singleton] at among
    rcases among with old | new
    · exact owns.live other old
    · rw [new]
      exact live
  · rw [handlesWhere_insert packed]
    rw [get?_modify] at found
    by_cases here : handle = owner object
    · rw [if_pos here] at found
      obtain ⟨before, there, rfl⟩ := Option.map_eq_some_iff.mp found
      rw [pushes, owns.listed _ before there, here]
      simp
    · rw [if_neg here] at found
      rw [owns.listed handle entry found]
      simp [Ne.symm here]

/-- **A new owner**, with an empty list. -/
theorem insertOwner (owns : Owns owners owned owner listed) (packed : owners.Packed) {entry : β}
    (bare : listed entry = []) : Owns (owners.insert entry).2 owned owner listed := by
  refine ⟨fun object among => packed.contains_insert entry (owns.live object among),
    fun handle held found => ?_⟩
  rw [packed.get?_insert, Option.or_eq_some_iff] at found
  rcases found with old | ⟨absent, new⟩
  · exact owns.listed handle held old
  · split at new
    · cases new
      -- nothing names an owner that was not live
      rw [bare, handlesWhere_eq_nil]
      intro object among
      have live := owns.live object among
      refine decide_eq_false fun same => ?_
      rw [same, contains, absent] at live
      cases live
    · cases new

end Owns

end ComputeHost.Arena
