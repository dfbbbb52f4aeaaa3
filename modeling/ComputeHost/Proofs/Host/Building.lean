/-
**Building programs.**

A build registers the text of a program under a new name and loads it on the devices asked for. If
any of this fails, no module and no data is changed.

* `registerModule_run` — registering a module.
* `buildProgram_run` — a build fails calmly, finds the program built, or builds it.
-/

import ComputeHost.Proofs.Host.Loading

namespace ComputeHost.Host

variable {host before after : Host SimulatedDevice} {name source : String}

/-! ### Registering -/

/-- A host with one more module in its table. -/
def enrolled (host : Host SimulatedDevice) (module : KernelModule) : Host SimulatedDevice :=
  { host with modules := ⟨host.modules.entries ++ [⟨module, []⟩]⟩ }

/-- **Registering a module** changes nothing, or adds a module under a new name. -/
theorem registerModule_run (host : Host SimulatedDevice) (name source : String) :
    (∃ error, registerModule name source host = .error error host) ∨
    ∃ module, host.modules.find? name = none ∧ KernelModule.parse name source = .ok module ∧
      registerModule name source host = .ok () (host.enrolled module) := by
  unfold registerModule
  cases registered : host.modules.register name source with
  | error error => exact .inl ⟨error, Action.bind_of_error (check_of_error registered)⟩
  | ok table =>
    right
    obtain ⟨module, new, read, rfl⟩ := ModuleTable.register_eq_ok registered
    exact ⟨module, new, read, Action.bind_of_ok (check_of_ok registered)⟩

theorem Linked.enroll (linked : host.Linked) {module : KernelModule}
    (new : host.modules.find? module.name = none) : (host.enrolled module).Linked := by
  refine ⟨linked.packed, linked.sound, linked.agrees.named.push new, fun loaded handle has => ?_,
    fun handle list there loaded => ?_⟩
  · exact linked.agrees.live loaded handle (ModuleTable.has_push.mp has)
  · exact (linked.agrees.held handle list there loaded).trans ModuleTable.has_push.symm

theorem Linked.counted (linked : host.Linked) (nextBuild : Nat) :
    { host with nextBuild }.Linked :=
  ⟨linked.packed, linked.sound, linked.agrees.of_eq rfl fun _ => rfl⟩

theorem find?_enrolled {module : KernelModule} (new : host.modules.find? module.name = none) :
    (host.enrolled module).modules.find? module.name = some ⟨module, []⟩ := by
  unfold enrolled ModuleTable.find?
  rw [List.find?_append]
  unfold ModuleTable.find? at new
  rw [new]
  simp

theorem Relinked.enroll (host : Host SimulatedDevice) (module : KernelModule) :
    Relinked module.name host (host.enrolled module) :=
  ⟨⟨_, _, _, rfl⟩, id, .refl (SimulatedDevice.AlikeBut.refl module.name) host,
    ModuleTable.remove_register⟩

/-! ### Builds -/

/-- A module of an unregistered name is on no device. -/
theorem Linked.loaded?_of_unregistered (linked : host.Linked)
    (new : host.modules.find? name = none) {handle : DeviceHandle} {device : SimulatedDevice}
    (found : host.backend? handle = some device) : device.loaded? name = none := by
  unfold SimulatedDevice.loaded?
  rw [List.find?_eq_none]
  intro loaded member same
  obtain ⟨entry, among, alike, _⟩ := (linked.has_iff found).mpr ⟨loaded, member, rfl⟩
  refine ModuleTable.find?_eq_none_iff.mp new entry among ?_
  rw [alike]
  simpa using same

/-- A change that comes back to the modules that there were is calm. -/
theorem Relinked.calm (relinked : Relinked name before after) (linked : before.Linked)
    (new : before.modules.find? name = none) (modules : after.modules = before.modules)
    (gone : ∀ handle device, after.backend? handle = some device → device.loaded? name = none) :
    before.Calm after := by
  have each : Each SimulatedDevice.Alike before after :=
    fun handle => (relinked.each handle).imp_right
      fun ⟨one, other, here, there, alike⟩ => ⟨one, other, here, there,
        alike.alike (linked.loaded?_of_unregistered new here) (gone handle other there)⟩
  obtain ⟨devices, table, nextBuild, same⟩ := relinked.rest
  refine ⟨fun packed => ?_, each, fun device member => ?_, ?_, ?_, ?_, ?_, ?_, ?_, modules⟩
  · have kept := relinked.packed packed.devices
    subst same
    exact { packed with devices := kept }
  · subst same
    exact ⟨device, member, .refl device⟩
  all_goals
    subst same
    intros
    rfl

/-- What a build is asked to do passes its checks for some devices. -/
theorem checkBuild_eq_ok (regular : host.Regular) {handle : ProgramHandle}
    {devices : Option (List DeviceHandle)} {options : Option String} {notify : Bool}
    {program : Program} {targets : List DeviceHandle}
    (passes : checkBuild handle devices options notify host = .ok (program, targets)) :
    host.registry.programs.get? handle = some program ∧ targets ≠ [] := by
  unfold checkBuild at passes
  simp only [Action.except_bind_eq_ok_iff, Action.refuse_eq_ok_iff, Arena.checked_eq_ok_iff]
    at passes
  obtain ⟨entry, live, context, there, asked, found, _, _, same⟩ := passes
  cases same
  refine ⟨live, ?_⟩
  unfold buildTargets at found
  split at found
  · cases found
    exact (regular.contexts _ context there).1
  · cases found
  · rename_i list nonempty
    simp only [Action.except_bind_eq_ok_iff] at found
    obtain ⟨_, _, same⟩ := found
    cases same
    exact nonempty

/-- The host after a program was built. -/
def built (host : Host SimulatedDevice) (handle : ProgramHandle) (builds : List Build) :
    Host SimulatedDevice :=
  { host with
    registry :=
      { host.registry with
        programs := host.registry.programs.modify handle fun program =>
          { program with builds := some builds } } }

theorem buildProgram_of_checked {handle : ProgramHandle} {devices : Option (List DeviceHandle)}
    {options : Option String} {notify : Bool} {program : Program} {targets : List DeviceHandle}
    (passes : checkBuild handle devices options notify host = .ok (program, targets))
    (unbuilt : program.builds.isNone = true) :
    buildProgram handle devices options notify host =
      (do
        registerModule (buildName host.nextBuild) program.source
        loadOnAll (buildName host.nextBuild) targets
        register fun registry =>
          ((), { registry with
            programs := registry.programs.modify handle fun entry =>
              { entry with
                builds := some (targets.map
                  (Build.ofText (buildName host.nextBuild) program.source)) } }) :
        HostAction SimulatedDevice Unit) { host with nextBuild := host.nextBuild + 1 } := by
  have got : (get : HostAction SimulatedDevice (Host SimulatedDevice)) host = .ok host host := rfl
  unfold buildProgram
  rw [Action.bind_of_ok (check_of_ok passes)]
  simp only
  rw [if_pos unbuilt, Action.bind_of_ok got]
  exact Action.bind_of_ok rfl

/-- How far a build comes before it loads anything: its checks fail, the program is built already,
the text is refused, or the module of the text is enrolled under a new name. -/
theorem buildProgram_inv (regular : host.Regular) (handle : ProgramHandle)
    (devices : Option (List DeviceHandle)) (options : Option String) (notify : Bool) :
    (∃ error, buildProgram handle devices options notify host = .error error host) ∨
    ∃ program targets, host.registry.programs.get? handle = some program ∧ targets ≠ [] ∧
      ((program.builds.isSome = true ∧
          buildProgram handle devices options notify host = .ok () host) ∨
        (program.builds = none ∧ ∃ error,
          buildProgram handle devices options notify host =
            .error error { host with nextBuild := host.nextBuild + 1 }) ∨
        (program.builds = none ∧ host.modules.find? (buildName host.nextBuild) = none ∧
          ∃ module, KernelModule.parse (buildName host.nextBuild) program.source = .ok module ∧
            buildProgram handle devices options notify host =
              (do
                loadOnAll (buildName host.nextBuild) targets
                register fun registry =>
                  ((), { registry with
                    programs := registry.programs.modify handle fun entry =>
                      { entry with
                        builds := some (targets.map
                          (Build.ofText (buildName host.nextBuild) program.source)) } }) :
                HostAction SimulatedDevice Unit)
              (enrolled { host with nextBuild := host.nextBuild + 1 } module))) := by
  cases passes : checkBuild handle devices options notify host with
  | error error =>
    left
    exact ⟨error, Action.bind_of_error (check_of_error passes)⟩
  | ok found =>
    obtain ⟨program, targets⟩ := found
    obtain ⟨live, nonempty⟩ := checkBuild_eq_ok regular passes
    refine .inr ⟨program, targets, live, nonempty, ?_⟩
    cases builds : program.builds with
    | some list =>
      refine .inl ⟨rfl, ?_⟩
      unfold buildProgram
      rw [Action.bind_of_ok (check_of_ok passes)]
      simp only [builds]
      rfl
    | none =>
      rw [buildProgram_of_checked passes (by rw [builds]; rfl)]
      rcases registerModule_run { host with nextBuild := host.nextBuild + 1 }
        (buildName host.nextBuild) program.source with
        ⟨error, failed⟩ | ⟨module, new, read, joined⟩
      · exact .inr (.inl ⟨rfl, error, Action.bind_of_error failed⟩)
      · exact .inr (.inr ⟨rfl, new, module, read, Action.bind_of_ok joined⟩)

/-- The module that a build enrolls is registered under its name. -/
theorem registered_enrolled (regular : host.Regular) {name source : String} {module : KernelModule}
    (new : host.modules.find? name = none) (read : KernelModule.parse name source = .ok module) :
    (enrolled { host with nextBuild := host.nextBuild + 1 } module).Linked ∧
      (enrolled { host with nextBuild := host.nextBuild + 1 } module).modules.find? name =
        some ⟨module, []⟩ ∧
      Relinked name host (enrolled { host with nextBuild := host.nextBuild + 1 } module) := by
  have named := KernelModule.parse_name read
  subst named
  -- the number of the build is used up, whatever comes of it
  exact ⟨(regular.linked.counted (host.nextBuild + 1)).enroll new, find?_enrolled new,
    ⟨_, _, _, rfl⟩, id, .refl (SimulatedDevice.AlikeBut.refl _) host, ModuleTable.remove_register⟩

/-- **A build** fails calmly, finds the program built already, or loads its text as a module of a
new name on all devices asked for. -/
theorem buildProgram_run (regular : host.Regular) (handle : ProgramHandle)
    (devices : Option (List DeviceHandle)) (options : Option String) (notify : Bool) :
    (∃ error after, buildProgram handle devices options notify host = .error error after ∧
      host.Calm after) ∨
    ∃ program targets, host.registry.programs.get? handle = some program ∧
      ((program.builds.isSome = true ∧
          buildProgram handle devices options notify host = .ok () host) ∨
        (program.builds = none ∧ targets ≠ [] ∧
          host.modules.find? (buildName host.nextBuild) = none ∧
          ∃ module middle, KernelModule.parse (buildName host.nextBuild) program.source =
              .ok module ∧
            Relinked (buildName host.nextBuild) host middle ∧ middle.Linked ∧
            Grows (buildName host.nextBuild) ⟨module, targets⟩ middle ∧
            buildProgram handle devices options notify host =
              .ok () (middle.built handle
                (targets.map
                  (Build.ofText (buildName host.nextBuild) program.source))))) := by
  rcases buildProgram_inv regular handle devices options notify with
    ⟨error, failed⟩ | ⟨program, targets, live, nonempty,
      known | ⟨_, error, failed⟩ | ⟨builds, new, module, read, course⟩⟩
  · exact .inl ⟨error, host, failed, .refl host⟩
  · exact .inr ⟨program, targets, live, .inl known⟩
  · exact .inl ⟨error, _, failed, { Calm.refl host with packed := id }⟩
  · obtain ⟨linked, registered, start⟩ := registered_enrolled regular new read
    rw [course]
    rcases loadOnAll_run linked registered targets with
      ⟨error, after, failed, relinked, removed, gone⟩ | ⟨middle, loaded, relinked, linked', grown⟩
    · left
      refine ⟨error, after, Action.bind_of_error failed,
        (start.trans relinked).calm regular.linked new ?_ gone⟩
      rw [removed, start.others, ModuleTable.remove_of_find?_eq_none new]
    · right
      exact ⟨program, targets, live, .inr ⟨builds, nonempty, new, module, middle, read,
        start.trans relinked, linked', grown, Action.bind_of_ok loaded⟩⟩

end ComputeHost.Host
