/-
**The table of modules.**

Names in the table differ, so an entry is found by its name. Registering, marking and removing a
module touch the entries of its name only (`remove_markLoaded`, `remove_register`).
-/

import ComputeHost.Host.ModuleTable
import Mathlib.Data.List.Nodup

namespace ComputeHost.ModuleTable

variable {table after : ModuleTable} {entry : ModuleEntry} {name other source : String}
  {device : DeviceHandle}

/-- No two registered modules have one name. -/
def Named (table : ModuleTable) : Prop :=
  (table.entries.map fun entry => entry.module.name).Nodup

theorem find?_eq_none_iff :
    table.find? name = none ↔ ∀ entry ∈ table.entries, entry.module.name ≠ name := by
  unfold find?
  rw [List.find?_eq_none]
  simp

theorem mem_of_find? (found : table.find? name = some entry) :
    entry ∈ table.entries ∧ entry.module.name = name :=
  ⟨List.mem_of_find?_eq_some found, by simpa using List.find?_some found⟩

/-- Entries with one name are the same entry. -/
theorem Named.eq_of_name (named : table.Named) {second : ModuleEntry}
    (member : entry ∈ table.entries) (among : second ∈ table.entries)
    (same : entry.module.name = second.module.name) : entry = second :=
  List.inj_on_of_nodup_map named member among same

theorem Named.find?_eq_some_iff (named : table.Named) :
    table.find? name = some entry ↔ entry ∈ table.entries ∧ entry.module.name = name := by
  refine ⟨mem_of_find?, fun ⟨member, same⟩ => ?_⟩
  cases found : table.find? name with
  | none => exact absurd same (find?_eq_none_iff.mp found entry member)
  | some second =>
    obtain ⟨among, alike⟩ := mem_of_find? found
    rw [named.eq_of_name among member (alike.trans same.symm)]

/-- The table says that the module is loaded on the device. -/
def Has (table : ModuleTable) (module : KernelModule) (device : DeviceHandle) : Prop :=
  ∃ entry ∈ table.entries, entry.module = module ∧ device ∈ entry.loadedOn

/-! ### Registering -/

/-- What is registered is new and was read from its text. -/
theorem register_eq_ok (done : table.register name source = .ok after) :
    ∃ module, table.find? name = none ∧ KernelModule.parse name source = .ok module ∧
      after = ⟨table.entries ++ [⟨module, []⟩]⟩ := by
  unfold register at done
  split at done
  · cases done
  · rename_i new
    split at done
    · cases done
    · rename_i module read
      cases done
      exact ⟨module, by simpa using new, read, rfl⟩

/-- An entry stays where a module is registered behind it. -/
theorem find?_push {module : KernelModule} (found : table.find? name = some entry) :
    (⟨table.entries ++ [⟨module, []⟩]⟩ : ModuleTable).find? name = some entry := by
  unfold find? at found ⊢
  rw [List.find?_append, found]
  rfl

theorem Named.push (named : table.Named) {module : KernelModule}
    (new : table.find? module.name = none) :
    (⟨table.entries ++ [⟨module, []⟩]⟩ : ModuleTable).Named := by
  unfold Named
  rw [List.map_append, List.nodup_append]
  refine ⟨named, List.nodup_singleton _, fun earlier member last among => ?_⟩
  obtain ⟨held, here, rfl⟩ := List.mem_map.mp member
  obtain rfl := List.mem_singleton.mp among
  exact find?_eq_none_iff.mp new held here

/-- A module that was just registered is loaded nowhere. -/
theorem has_push {module loaded : KernelModule} :
    (⟨table.entries ++ [⟨module, []⟩]⟩ : ModuleTable).Has loaded device ↔
      table.Has loaded device := by
  unfold Has
  simp only [List.mem_append, List.mem_singleton]
  constructor
  · rintro ⟨entry, member | rfl, same, here⟩
    · exact ⟨entry, member, same, here⟩
    · cases here
  · rintro ⟨entry, member, same, here⟩
    exact ⟨entry, .inl member, same, here⟩

/-! ### Marking -/

theorem mem_markLoaded : entry ∈ (table.markLoaded name device).entries ↔
    ∃ earlier ∈ table.entries, entry =
      if earlier.module.name = name then
        { earlier with loadedOn := earlier.loadedOn ++ [device] }
      else earlier := by
  unfold markLoaded
  rw [List.mem_map]
  exact exists_congr fun earlier => and_congr_right fun _ => eq_comm

theorem Named.markLoaded (named : table.Named) (name : String) (device : DeviceHandle) :
    (table.markLoaded name device).Named := by
  have names : ((table.markLoaded name device).entries.map fun entry => entry.module.name) =
      table.entries.map fun entry => entry.module.name := by
    unfold ModuleTable.markLoaded
    rw [List.map_map]
    refine List.map_congr_left fun entry _ => ?_
    simp only [Function.comp_apply]
    split <;> rfl
  unfold Named
  rw [names]
  exact named

/-- Marking a module on a device adds this and nothing else. -/
theorem Named.has_markLoaded (named : table.Named) (found : table.find? name = some entry)
    {module : KernelModule} {place : DeviceHandle} :
    (table.markLoaded name device).Has module place ↔
      table.Has module place ∨ place = device ∧ module = entry.module := by
  obtain ⟨member, rfl⟩ := mem_of_find? found
  unfold Has
  constructor
  · rintro ⟨_, marked, rfl, here⟩
    obtain ⟨earlier, among, rfl⟩ := mem_markLoaded.mp marked
    split at here
    · rename_i same
      obtain rfl := named.eq_of_name among member same
      rw [if_pos rfl]
      rcases List.mem_append.mp here with old | new
      · exact .inl ⟨earlier, among, rfl, old⟩
      · exact .inr ⟨List.mem_singleton.mp new, rfl⟩
    · rename_i differ
      rw [if_neg differ]
      exact .inl ⟨earlier, among, rfl, here⟩
  · rintro (⟨earlier, among, rfl, here⟩ | ⟨rfl, rfl⟩)
    · refine ⟨_, mem_markLoaded.mpr ⟨earlier, among, rfl⟩, ?_, ?_⟩
      · split <;> rfl
      · split
        · exact List.mem_append_left _ here
        · exact here
    · refine ⟨_, mem_markLoaded.mpr ⟨entry, member, rfl⟩, ?_, ?_⟩
      · rw [if_pos rfl]
      · rw [if_pos rfl]
        exact List.mem_append_right _ (List.mem_singleton_self _)

/-- The entry of the module that was marked. -/
theorem Named.find?_markLoaded (named : table.Named) (found : table.find? name = some entry) :
    (table.markLoaded name device).find? name =
      some { entry with loadedOn := entry.loadedOn ++ [device] } := by
  obtain ⟨member, same⟩ := mem_of_find? found
  refine (named.markLoaded name device).find?_eq_some_iff.mpr ⟨?_, same⟩
  exact mem_markLoaded.mpr ⟨entry, member, (if_pos same).symm⟩

/-! ### Removing -/

theorem mem_remove :
    entry ∈ (table.remove name).entries ↔ entry ∈ table.entries ∧ entry.module.name ≠ name := by
  unfold remove
  rw [List.mem_filter]
  simp

theorem Named.remove (named : table.Named) (name : String) : (table.remove name).Named :=
  named.sublist (List.filter_sublist.map _)

theorem has_remove {module : KernelModule} :
    (table.remove name).Has module device ↔ table.Has module device ∧ module.name ≠ name := by
  unfold Has
  simp only [mem_remove]
  constructor
  · rintro ⟨entry, ⟨member, differ⟩, rfl, here⟩
    exact ⟨⟨entry, member, rfl, here⟩, differ⟩
  · rintro ⟨⟨entry, member, rfl, here⟩, differ⟩
    exact ⟨entry, ⟨member, differ⟩, rfl, here⟩

/-- Removing what is not there changes nothing. -/
theorem remove_of_find?_eq_none (absent : table.find? name = none) : table.remove name = table := by
  unfold remove
  rw [List.filter_eq_self.mpr]
  intro entry member
  simpa using find?_eq_none_iff.mp absent entry member

theorem remove_remove : (table.remove name).remove name = table.remove name := by
  refine remove_of_find?_eq_none (find?_eq_none_iff.mpr fun entry member => ?_)
  exact (mem_remove.mp member).2

theorem remove_register {module : KernelModule} :
    (⟨table.entries ++ [⟨module, []⟩]⟩ : ModuleTable).remove module.name =
      table.remove module.name := by
  unfold remove
  rw [List.filter_append]
  simp

theorem remove_markLoaded : (table.markLoaded name device).remove name = table.remove name := by
  obtain ⟨entries⟩ := table
  unfold remove markLoaded
  simp only [ModuleTable.mk.injEq]
  induction entries with
  | nil => rfl
  | cons first rest ih =>
    rw [List.map_cons, List.filter_cons, List.filter_cons, ih]
    by_cases here : first.module.name = name
    · simp [here]
    · simp [here]

/-- Other modules are found as before. -/
theorem find?_remove (differ : other ≠ name) : (table.remove name).find? other =
    table.find? other := by
  unfold find? remove
  rw [List.find?_filter]
  refine congrArg (List.find? · table.entries) (funext fun entry => ?_)
  by_cases here : entry.module.name = other
  · simp [here, differ]
  · simp [here]

theorem find?_of_remove_eq (same : after.remove name = table.remove name) (differ : other ≠ name) :
    after.find? other = table.find? other := by
  rw [← find?_remove differ, same, find?_remove differ]

end ComputeHost.ModuleTable
