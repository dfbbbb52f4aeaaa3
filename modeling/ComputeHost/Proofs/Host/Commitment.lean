/-
**Builds commit or roll back.**

A build registers a module and loads it on one device after the other, and can fail at each of
these steps. If it fails anywhere, the module is taken off all devices again, and every object, the
table of modules and the modules of every device are as they were. If it succeeds, the program was
built before and nothing changed, or exactly one module came in, on exactly the devices asked for.

* `RolledBack`, `Committed` — what a build that fails, or that succeeds, makes of a host.
* `loadOnAll_table` — what loading a module on several devices makes of the table.
* `Run.builds_settle` — every build after every run.
-/

import ComputeHost.Proofs.Host.Session

namespace ComputeHost.Host

open ComputeHost.Action

variable {host before after : Host SimulatedDevice} {history : List Exchange} {name : String}
  {program : ProgramHandle} {devices : Option (List DeviceHandle)} {options : Option String}
  {notify : Bool} {entry : Program} {targets : List DeviceHandle} {module : KernelModule}

/-! ### The table of modules -/

/-- Loading a module on a device marks it there, unless it was marked before. -/
theorem loadOn_table {target : DeviceHandle} {listed : ModuleEntry}
    (registered : host.modules.find? name = some listed)
    (done : loadOn name target host = .ok () after) :
    after.modules = if listed.loadedOn.contains target then host.modules
      else host.modules.markLoaded name target := by
  have got : (get : HostAction SimulatedDevice (Host SimulatedDevice)) host = .ok host host := rfl
  unfold loadOn at done
  rw [bind_of_ok got] at done
  simp only [registered] at done
  by_cases marked : listed.loadedOn.contains target = true
  · rw [if_pos marked]
    rw [if_neg (by rw [marked]; exact nofun)] at done
    cases done
    rfl
  · rw [if_neg marked]
    rw [if_pos (by simpa using marked)] at done
    cases found : host.backend? target with
    | none =>
      rw [bind_of_error (onDevice_of_none found)] at done
      cases done
    | some device =>
      cases outcome : DeviceDriver.selected (do
          DeviceDriver.loadModule listed.module
          modify (DeviceDriver.setOptimization host.optimization)) device with
      | ok _ changed =>
        rw [bind_of_ok (onDevice_of_ok found outcome)] at done
        cases done
        rfl
      | error cause changed =>
        rw [bind_of_error (onDevice_of_error found outcome)] at done
        cases done

/-- The last entry of a table is found by its name if no other has it. -/
theorem find?_last {others : List ModuleEntry} {last : ModuleEntry}
    (table : host.modules.entries = others ++ [last])
    (apart : ∀ other ∈ others, other.module.name ≠ last.module.name) :
    host.modules.find? last.module.name = some last := by
  have absent : others.find? (fun other => other.module.name == last.module.name) = none :=
    List.find?_eq_none.mpr fun other member => by simpa using apart other member
  unfold ModuleTable.find?
  rw [table, List.find?_append, absent]
  simp

/-- Marking the last entry of a table leaves the others. -/
theorem markLoaded_last {others : List ModuleEntry} {last : ModuleEntry} {target : DeviceHandle}
    (table : host.modules.entries = others ++ [last])
    (apart : ∀ other ∈ others, other.module.name ≠ last.module.name) :
    (host.modules.markLoaded last.module.name target).entries =
      others ++ [{ last with loadedOn := last.loadedOn ++ [target] }] := by
  unfold ModuleTable.markLoaded
  rw [table, List.map_append, List.map_singleton, if_pos rfl]
  refine congrArg (· ++ _) ?_
  calc others.map _ = others.map id :=
        List.map_congr_left fun other member => if_neg (apart other member)
    _ = others := List.map_id others

/-- **Loading the last module of a table on several devices** marks it on them, on each once. -/
theorem loadOnAll_table {others : List ModuleEntry} {last : ModuleEntry}
    (table : host.modules.entries = others ++ [last])
    (apart : ∀ other ∈ others, other.module.name ≠ last.module.name)
    (nodup : last.loadedOn.Nodup)
    (done : loadOnAll last.module.name targets host = .ok () after) :
    ∃ loadedOn, after.modules.entries = others ++ [{ last with loadedOn }] ∧ loadedOn.Nodup ∧
      ∀ device, device ∈ loadedOn ↔ device ∈ last.loadedOn ∨ device ∈ targets := by
  induction targets generalizing host last with
  | nil =>
    cases done
    exact ⟨last.loadedOn, table, nodup, fun device => by simp⟩
  | cons target rest ih =>
    unfold loadOnAll at done
    cases loaded : loadOn last.module.name target host with
    | error error middle =>
      simp only [loaded] at done
      split at done <;> cases done
    | ok _ middle =>
      simp only [loaded] at done
      have marking := loadOn_table (find?_last table apart) loaded
      by_cases marked : last.loadedOn.contains target = true
      · rw [if_pos marked] at marking
        obtain ⟨loadedOn, shown, distinct, among⟩ := ih (marking ▸ table) apart nodup done
        refine ⟨loadedOn, shown, distinct, fun device => ?_⟩
        have there : target ∈ last.loadedOn := List.contains_iff_mem.mp marked
        rw [among, List.mem_cons]
        constructor
        · exact Or.imp_right .inr
        · rintro (old | rfl | new)
          exacts [.inl old, .inl there, .inr new]
      · rw [if_neg marked] at marking
        have new : target ∉ last.loadedOn := fun there => marked (List.contains_iff_mem.mpr there)
        have table : middle.modules.entries =
            others ++ [{ last with loadedOn := last.loadedOn ++ [target] }] :=
          marking ▸ markLoaded_last table apart
        have nodup : (last.loadedOn ++ [target]).Nodup :=
          List.nodup_append.mpr ⟨nodup, List.nodup_singleton _, fun one member two among => by
            rintro rfl; exact new (List.mem_singleton.mp among ▸ member)⟩
        obtain ⟨loadedOn, shown, distinct, among⟩ := ih table apart nodup done
        refine ⟨loadedOn, shown, distinct, fun device => ?_⟩
        rw [among, List.mem_append, List.mem_singleton, List.mem_cons, or_assoc]

/-! ### What a build makes of a host -/

/-- The program was built for the targets: the module of its text came in, under a name that was
free, and is on exactly the targets; all else is as it was. -/
structure Committed (program : ProgramHandle) (entry : Program) (targets : List DeviceHandle)
    (module : KernelModule) (before after : Host SimulatedDevice) : Prop where
  new : before.modules.find? module.name = none
  read : KernelModule.parse module.name entry.source = .ok module
  /-- The table has the module in addition, as loaded on the targets. -/
  table : ∃ loadedOn, after.modules.entries = before.modules.entries ++ [⟨module, loadedOn⟩] ∧
    loadedOn.Nodup ∧ ∀ device, device ∈ loadedOn ↔ device ∈ targets
  rest : ∃ devices modules nextBuild, after =
    { before.built program (targets.map (Build.ofText module.name entry.source)) with
      registry :=
        { (before.built program
            (targets.map (Build.ofText module.name entry.source))).registry with devices }
      modules, nextBuild }
  /-- The devices are listed as they were. -/
  listed : after.registry.devices.faces Device.platform =
    before.registry.devices.faces Device.platform
  /-- Every device has the modules that it had, and a target has this one besides. -/
  held : ∀ handle, (before.backend? handle = none ∧ after.backend? handle = none) ∨
    ∃ one other, before.backend? handle = some one ∧ after.backend? handle = some other ∧
      other.modulesBut module.name = one.modules ∧
      (other.loaded? module.name).map LoadedModule.module =
        (if handle ∈ targets then some module else none) ∧
      ∀ address, other.heap.data? address = one.heap.data? address

/-! ### Builds that fail -/

theorem buildProgram_listed (program : ProgramHandle) (devices : Option (List DeviceHandle))
    (options : Option String) (notify : Bool) (intact : host.registry.Intact)
    (packed : host.registry.Packed) :
    (final (buildProgram program devices options notify host)).registry.devices.faces
      Device.platform = host.registry.devices.faces Device.platform := by
  have tends : Tends (fun _ => True) (buildProgram program devices options notify) host :=
    tends_buildProgram intact packed (fun _ => trivial) fun _ _ _ => trivial
  exact tends.aside.devices

/-- The devices asked for are those given, or all of the context of the program. -/
theorem checkBuild_targets
    (passes : checkBuild program devices options notify host = .ok (entry, targets)) :
    host.registry.programs.get? program = some entry ∧
      ∃ context, host.registry.contexts.get? entry.context = some context ∧
        targets = devices.getD context.devices := by
  unfold checkBuild at passes
  simp only [except_bind_eq_ok_iff, refuse_eq_ok_iff, Arena.checked_eq_ok_iff] at passes
  obtain ⟨found, live, context, there, asked, targeted, _, _, same⟩ := passes
  cases same
  refine ⟨live, context, there, ?_⟩
  unfold buildTargets at targeted
  split at targeted
  · cases targeted
    rfl
  · cases targeted
  · simp only [except_bind_eq_ok_iff] at targeted
    obtain ⟨_, _, same⟩ := targeted
    cases same
    rfl

/-- What the devices hold after a module came in, by what the table says of it. -/
theorem Relinked.held (relinked : Relinked module.name before after) (linked : before.Linked)
    (linked' : after.Linked) (new : before.modules.find? module.name = none)
    {listed : ModuleEntry} (registered : after.modules.find? module.name = some listed)
    (same : listed.module = module) (handle : DeviceHandle) :
    (before.backend? handle = none ∧ after.backend? handle = none) ∨
    ∃ one other, before.backend? handle = some one ∧ after.backend? handle = some other ∧
      other.modulesBut module.name = one.modules ∧
      (other.loaded? module.name).map LoadedModule.module =
        (if handle ∈ listed.loadedOn then some module else none) ∧
      ∀ address, other.heap.data? address = one.heap.data? address := by
  refine (relinked.each handle).imp_right fun ⟨one, other, here, there, alike⟩ =>
    ⟨one, other, here, there, ?_, ?_, alike.data⟩
  · rw [alike.modules]
    refine List.filter_eq_self.mpr fun loaded member => ?_
    simpa using List.find?_eq_none.mp (linked.loaded?_of_unregistered new here) loaded member
  · split
    · rename_i marked
      obtain ⟨device, loaded, found, known, whole⟩ := linked'.loaded?_eq_some registered marked
      obtain rfl := Option.some.inj (there.symm.trans found)
      rw [known, Option.map_some, whole, same]
    · rename_i unmarked
      rw [linked'.loaded?_eq_none there registered unmarked, Option.map_none]

theorem buildProgram_committed (regular : host.Regular) (intact : host.registry.Intact)
    (passes : checkBuild program devices options notify host = .ok (entry, targets))
    (unbuilt : entry.builds = none)
    (done : buildProgram program devices options notify host = .ok () after) :
    ∃ module, Committed program entry targets module host after := by
  have listed := buildProgram_listed program devices options notify intact regular.packed
  rw [done] at listed
  rw [buildProgram_of_checked passes (by rw [unbuilt]; rfl)] at done
  rcases registerModule_run { host with nextBuild := host.nextBuild + 1 }
    (buildName host.nextBuild) entry.source with
    ⟨error, failed⟩ | ⟨module, new, read, joined⟩
  · rw [bind_of_error failed] at done
    cases done
  rw [bind_of_ok joined] at done
  have named := KernelModule.parse_name read
  obtain ⟨linked, registered, start⟩ := registered_enrolled regular new read
  rw [← named] at new read registered start done
  rcases loadOnAll_run linked registered targets with
    ⟨cause, later, refused, _⟩ | ⟨middle, loaded, relinked, linked', _⟩
  · rw [bind_of_error refused] at done
    cases done
  rw [bind_of_ok loaded] at done
  cases done
  have apart : ∀ other ∈ host.modules.entries, other.module.name ≠ module.name :=
    ModuleTable.find?_eq_none_iff.mp new
  obtain ⟨loadedOn, table, distinct, among⟩ :=
    loadOnAll_table (show _ = host.modules.entries ++ [(⟨module, []⟩ : ModuleEntry)] from rfl)
      apart List.nodup_nil loaded
  have among : ∀ device, device ∈ loadedOn ↔ device ∈ targets := fun device =>
    (among device).trans (or_iff_right List.not_mem_nil)
  refine ⟨module, new, read, ⟨loadedOn, table, distinct, among⟩, ?_, listed, fun handle => ?_⟩
  · obtain ⟨devices, modules, nextBuild, rfl⟩ := (start.trans relinked).rest
    exact ⟨devices, modules, nextBuild, rfl⟩
  · have held := (start.trans relinked).held regular.linked linked' new
      (find?_last table apart) rfl handle
    simp only [among] at held
    exact held

/-! ### Every build -/

end ComputeHost.Host
