/-
**Built programs can be run.**

As long as the module of a built program is not unregistered by its name, kernels can be made of it,
and a launch on a device of the build may fail for many reasons, but never for want of the module
or of the kernel.

* `Blameless` — a check that never fails for want of a module or a kernel.
* `enqueueKernel_blameless` — launches of a registered module.
* `Run.built_program_runs` — built programs after every run.
-/

import ComputeHost.Proofs.Host.Programs
import ComputeHost.Proofs.Host.Refusal

namespace ComputeHost

/-- Whether the error says that a module or a kernel is missing. -/
def HostError.blamesModule : HostError → Bool
  | .programNotBuilt | .kernelNotFound _ => true
  | .device (.moduleNotLoaded _) | .device (.kernelNotFound _ _) => true
  | _ => false

/-- The check never says that a module or a kernel is missing. -/
def Blameless {α : Type} (check : Except HostError α) : Prop :=
  ∀ error, check = .error error → error.blamesModule = false

/-- An error of a check that looks nothing up. -/
theorem HostError.blamesModule_of_looksUp {error : HostError} (own : error.looksUp = false) :
    error.blamesModule = false := by
  cases error <;> first | rfl | cases own

/-- A check that looks nothing up. -/
theorem Refuses.blameless {α : Type} {check : Except HostError α}
    (refuses : Refuses (fun error => error.looksUp = false) check) : Blameless check :=
  refuses.imp fun _ => HostError.blamesModule_of_looksUp

namespace Blameless

variable {α β : Type} {check : Except HostError α} {next : α → Except HostError β}

theorem ok (value : α) : Blameless (.ok value : Except HostError α) := Refuses.ok value

theorem bind (first : Blameless check)
    (rest : ∀ value, check = .ok value → Blameless (next value)) :
    Blameless (check >>= next) :=
  Refuses.bind first rest

theorem checked {kind : ObjectKind} (arena : Arena kind α) (handle : Handle kind) :
    Blameless (arena.checked handle) :=
  Refuses.checked fun _ => rfl

end Blameless

namespace SimulatedDevice

/-- A launch of a kernel of a loaded module fails only if the kernel does. -/
theorem launchSelected_blameless {request : LaunchRequest} {device : SimulatedDevice}
    {loaded : LoadedModule} (found : device.loaded? request.module = some loaded)
    (has : (loaded.module.kernel? request.kernel).isSome) {cause : DeviceError}
    (failed : (Host.launchSelected request device).1.result = .error cause) :
    ∃ fault, cause = .execution fault := by
  have got : (get : DeviceAction SimulatedDevice SimulatedDevice) device.select =
      .ok device.select device.select := rfl
  have known : device.select.loaded? request.module = some loaded := found
  have present : ¬ (loaded.module.kernel? request.kernel).isNone = true := by
    rw [Option.isNone_iff_eq_none]
    intro absent
    rw [absent] at has
    cases has
  have passes : checkLaunch request device.select = .ok () device.select := by
    unfold checkLaunch
    rw [Action.bind_of_ok (ensureSelected_of_selected rfl), Action.bind_of_ok got]
    simp only [known]
    rw [if_neg present]
    rfl
  have launched : (launch request device.select).1.result = .error cause := failed
  unfold launch at launched
  rw [passes] at launched
  simp only at launched
  split at launched
  · cases launched
    exact ⟨_, rfl⟩
  · cases launched

end SimulatedDevice

namespace Host

open ComputeHost.Action

variable {host after : Host SimulatedDevice} {history : List Exchange}

/-! ### Launches of a registered module -/

theorem checkLaunch_blameless (queue : QueueHandle) (kernel : KernelHandle) (range : LaunchRange)
    (waits : WaitList) (host : Host SimulatedDevice) :
    Blameless (checkLaunch queue kernel range waits host) :=
  checkLaunch_refuses range waits (fun _ => HostError.blamesModule_of_looksUp) (fun _ => rfl)
    fun _ => rfl

/-- The request for a launch names the module and the kernel, and making it is not refused for want
of these. -/
theorem launchRequest_blameless {queue : Queue} {handle : KernelHandle} (geometry : Geometry)
    {kernel : Kernel} {program : Program} {module : KernelModule}
    (made : host.registry.kernels.get? handle = some kernel)
    (owned : host.registry.programs.get? kernel.program = some program)
    (built : host.launchModule program queue.device = .ok module)
    (has : (module.kernel? kernel.name).isSome) :
    Blameless (launchRequest queue handle geometry host) ∧
      ∀ request, launchRequest queue handle geometry host = .ok request →
        request.module = module.name ∧ request.kernel = kernel.name := by
  obtain ⟨signature, known⟩ := Option.isSome_iff_exists.mp has
  have unfolded : launchRequest queue handle geometry host = (do
      let device ← host.registry.devices.checked queue.device
      let parameters ← (host.binding queue.device device.name).block
        signature kernel
      return {
        module := module.name
        kernel := kernel.name
        stream := queue.stream
        workGroups := Geometry.words geometry.groups
        localSize := Geometry.words geometry.localSize
        parameters
        collectors := [] }) := by
    unfold launchRequest
    rw [except_bind_of_ok (Arena.checked_eq_ok_iff.mpr made),
      except_bind_of_ok (Arena.checked_eq_ok_iff.mpr owned), except_bind_of_ok built, known]
  rw [unfolded]
  refine ⟨(Blameless.checked _ _).bind fun device _ =>
    (Binding.block_refuses _ _ _).blameless.bind fun _ _ => .ok _, fun request done => ?_⟩
  simp only [except_bind_eq_ok_iff] at done
  obtain ⟨_, _, _, _, same⟩ := done
  cases same
  exact ⟨rfl, rfl⟩

/-- A launch on a device that has the module and the kernel fails only if the kernel does. -/
theorem dispatch_blameless {handle : DeviceHandle} {request : LaunchRequest}
    {device : SimulatedDevice} {loaded : LoadedModule} {error : HostError}
    (found : host.backend? handle = some device)
    (known : device.loaded? request.module = some loaded)
    (has : (loaded.module.kernel? request.kernel).isSome)
    (failed : dispatch handle request host = .error error after) : error.blamesModule = false := by
  obtain ⟨entry, live, rfl⟩ := checked_of_backend? found
  have ran : ∃ middle, execute handle request host =
      .ok (launchSelected request entry.backend).1.result middle := by
    unfold execute
    rw [live]
    exact ⟨_, rfl⟩
  obtain ⟨middle, ran⟩ := ran
  unfold dispatch at failed
  rw [bind_of_ok ran] at failed
  cases result : (launchSelected request entry.backend).1.result with
  | ok done =>
    rw [result] at failed
    cases failed
  | error cause =>
    obtain ⟨fault, rfl⟩ := SimulatedDevice.launchSelected_blameless known has result
    rw [result] at failed
    cases failed
    rfl

/-- Taking collectors leaves the devices as they were, and fails only for a context that is gone. -/
theorem takeCollectors_run (context : ContextHandle) (host : Host SimulatedDevice) :
    takeCollectors context host = .error (.invalidHandle .context) host ∨
      ∃ collectors after, takeCollectors context host = .ok collectors after ∧
        ∀ handle, after.backend? handle = host.backend? handle := by
  unfold takeCollectors
  cases found : host.registry.contexts.get? context with
  | none =>
    have absent : host.registry.contexts.checked context = .error (.invalidHandle .context) := by
      unfold Arena.checked
      rw [found]
    exact .inl (bind_of_error (check_of_error absent))
  | some entry =>
    have live := Arena.checked_eq_ok_iff.mpr found
    exact .inr ⟨_, _, bind_of_ok (check_of_ok live), fun _ => rfl⟩

/-- Noting a geometry leaves the kernel what it is, and all else as it was. -/
theorem noteGeometry_run {kernel : KernelHandle} {made : Kernel}
    (held : host.registry.kernels.get? kernel = some made) (geometry : Geometry) :
    ∃ after, changeKernel kernel (fun one => { one with geometry := some geometry }) host =
        .ok () after ∧
      after.registry.kernels.get? kernel = some { made with geometry := some geometry } ∧
      after.registry.programs = host.registry.programs ∧ after.modules = host.modules ∧
      ∀ handle, after.backend? handle = host.backend? handle := by
  refine ⟨_, rfl, ?_, rfl, rfl, fun _ => rfl⟩
  show (host.registry.kernels.modify kernel _).get? kernel = _
  rw [Arena.get?_modify, if_pos rfl, held]
  rfl

/-- **A launch of a kernel never fails for want of its module or of the kernel** where the module of
its program is registered, has the kernel, and is on the device of the queue. -/
theorem enqueueKernel_blameless {queue : QueueHandle} {kernel : KernelHandle} {range : LaunchRange}
    {waits : WaitList} {entry : Queue} {made : Kernel} {program : Program} {module : KernelModule}
    {device : SimulatedDevice} {loaded : LoadedModule} {error : HostError}
    (queued : host.registry.queues.get? queue = some entry)
    (held : host.registry.kernels.get? kernel = some made)
    (owned : host.registry.programs.get? made.program = some program)
    (built : host.launchModule program entry.device = .ok module)
    (has : (module.kernel? made.name).isSome)
    (there : host.backend? entry.device = some device)
    (known : device.loaded? module.name = some loaded) (same : loaded.module = module)
    (failed : enqueueKernel queue kernel range waits host = .error error after) :
    error.blamesModule = false := by
  unfold enqueueKernel at failed
  rcases bind_eq_error_iff.mp failed with refused | ⟨⟨found, geometry⟩, middle, passed, onward⟩
  · exact checkLaunch_blameless _ _ _ _ _ _ (check_eq_error_iff.mp refused).1
  obtain ⟨passes, rfl⟩ := check_eq_ok_iff.mp passed
  obtain rfl := Option.some.inj (queued.symm.trans (checkLaunch_eq_ok passes).1)
  obtain ⟨noted, changed, still, programs, modules, backends⟩ := noteGeometry_run held geometry
  have owned' : noted.registry.programs.get? made.program = some program := programs ▸ owned
  have built' : noted.launchModule program entry.device = .ok module := by
    unfold launchModule at built ⊢
    rw [modules]
    exact built
  obtain ⟨fair, names⟩ := launchRequest_blameless geometry still owned' built' has
  simp only at onward
  rw [bind_of_ok changed] at onward
  rcases bind_eq_error_iff.mp onward with refused | ⟨request, later, passed', ending⟩
  · exact fair _ (check_eq_error_iff.mp refused).1
  obtain ⟨asked, rfl⟩ := check_eq_ok_iff.mp passed'
  obtain ⟨of_module, of_kernel⟩ := names request asked
  rcases takeCollectors_run entry.context later with gone | ⟨collectors, taken, took, backends'⟩
  · rw [bind_of_error gone] at ending
    cases ending
    rfl
  · rw [bind_of_ok took] at ending
    have stands : taken.backend? entry.device = some device :=
      (backends' _).trans ((backends _).trans there)
    have module_there : device.loaded? { request with collectors }.module = some loaded :=
      of_module ▸ known
    have kernel_there : (loaded.module.kernel? { request with collectors }.kernel).isSome := by
      rw [of_kernel, same]
      exact has
    exact dispatch_blameless stands module_there kernel_there ending

/-! ### Built programs -/

/-- All builds of a standing program have one module. -/
theorem Standing.of_builds (standing : Standing history host) {handle : ProgramHandle}
    {program : Program} {builds : List Build} {build : Build}
    (there : host.registry.programs.get? handle = some program)
    (built : program.builds = some builds) (member : build ∈ builds)
    (stays : isWithdrawn history handle build.module = false) :
    (∀ other ∈ builds, other.module = build.module) ∧
      ∃ entry, host.modules.find? build.module = some entry ∧
        KernelModule.parse build.module program.source = .ok entry.module ∧
        build.device ∈ entry.loadedOn := by
  have here : host.program? handle = some (program.context, program.source, some builds) := by
    unfold program?
    rw [there, Option.map_some, programFace, built]
  obtain ⟨name, targets, _, all, stood⟩ := standing.builds handle _ _ builds here
  have named : ∀ build ∈ builds, build.module = name := by
    intro build member
    rw [all] at member
    obtain ⟨_, _, rfl⟩ := List.mem_map.mp member
    rfl
  refine ⟨fun other among => (named other among).trans (named build member).symm, ?_⟩
  rw [named build member] at stays ⊢
  obtain ⟨entry, registered, read, loaded⟩ := stood stays
  refine ⟨entry, registered, read, loaded _ ?_⟩
  rw [all] at member
  obtain ⟨device, among, rfl⟩ := List.mem_map.mp member
  exact among

/-- A built program finds its module by its first build. -/
theorem programModule_of_builds {program : Program} {builds : List Build} {module : KernelModule}
    (built : program.builds = some builds) (nonempty : builds ≠ [])
    (modules : ∀ build ∈ builds, host.modules.module? build.module = some module) :
    host.programModule program = .ok module := by
  obtain ⟨first, rest, rfl⟩ := List.exists_cons_of_ne_nil nonempty
  unfold programModule
  rw [built, Option.getD_some, List.head?_cons, Option.bind_some, modules first List.mem_cons_self]

/-- A kernel of the module of a built program can be made. -/
theorem createKernel_of_builds {handle : ProgramHandle} {program : Program} {builds : List Build}
    {name : String} {module : KernelModule}
    (there : host.registry.programs.get? handle = some program)
    (built : program.builds = some builds) (nonempty : builds ≠ [])
    (modules : ∀ build ∈ builds, host.modules.module? build.module = some module)
    (has : (module.kernel? name).isSome) :
    ∃ made : KernelHandle, (step (.createKernel handle name) host).1 = .ok (.handle made) := by
  obtain ⟨signature, known⟩ := Option.isSome_iff_exists.mp has
  have found := programModule_of_builds built nonempty modules
  have passes : checkKernel handle name host = .ok
      { program := handle, context := program.context, name,
        arguments := List.replicate signature.parameters.length none } := by
    unfold checkKernel
    rw [except_bind_of_ok (Arena.checked_eq_ok_iff.mpr there), except_bind_of_ok found, known]
    rfl
  have made : createKernel handle name host = .ok _ _ := bind_of_ok (check_of_ok passes)
  exact ⟨_, congrArg Prod.fst (step_of_ok (map_of_ok made))⟩

/-- The module of a program is found by any of its builds for the device. -/
theorem launchModule_of_builds {program : Program} {builds : List Build} {build : Build}
    {module : KernelModule} (built : program.builds = some builds) (member : build ∈ builds)
    (modules : ∀ build ∈ builds, host.modules.module? build.module = some module) :
    host.launchModule program build.device = .ok module := by
  unfold launchModule Program.buildFor?
  rw [built, Option.getD_some]
  cases found : builds.find? fun one => one.device == build.device with
  | none => exact absurd (beq_self_eq_true build.device) (List.find?_eq_none.mp found build member)
  | some one =>
    rw [Option.bind_some, modules one (List.mem_of_find?_eq_some found)]

/-- **Built programs can be run.** After every run, a program whose build succeeded has builds, and
as long as the module of a build was not unregistered since, that module is registered, was read
from the text of the program, and is on the device of the build; every kernel of it can be made, and
a launch of a kernel of the program on the device never fails for want of module or kernel. -/
theorem Run.built_program_runs (run : Run history host) {handle : ProgramHandle}
    (built : isBuilt history handle = true) :
    ∃ program builds, host.registry.programs.get? handle = some program ∧
      program.builds = some builds ∧ builds ≠ [] ∧
      ∀ build ∈ builds, isWithdrawn history handle build.module = false →
        ∃ entry, host.modules.find? build.module = some entry ∧
          KernelModule.parse build.module program.source = .ok entry.module ∧
          build.device ∈ entry.loadedOn ∧
          (∃ held, host.modulesOn build.device = some held ∧ entry.module ∈ held) ∧
          (∀ name, (entry.module.kernel? name).isSome → ∃ made : KernelHandle,
            (step (.createKernel handle name) host).1 = .ok (.handle made)) ∧
          ∀ queue kernel range waits line made error,
            host.registry.queues.get? queue = some line → line.device = build.device →
            host.registry.kernels.get? kernel = some made → made.program = handle →
            (step (.enqueueKernel queue kernel range waits) host).1 = .error error →
              error.blamesModule = false := by
  have standing := run.standing
  have linked := run.regular.linked
  rw [standing.built] at built
  obtain ⟨builds, found⟩ := Option.isSome_iff_exists.mp built
  obtain ⟨⟨context, source, _⟩, here, rfl⟩ := Option.bind_eq_some_iff.mp found
  obtain ⟨program, there, face⟩ := Option.map_eq_some_iff.mp here
  have done : program.builds = some builds := congrArg (fun face => face.2.2) face
  obtain ⟨_, targets, some_targets, all, _⟩ := standing.builds handle _ _ builds here
  have nonempty : builds ≠ [] := by
    rw [all]
    simpa using some_targets
  refine ⟨program, builds, there, done, nonempty, fun build member stays => ?_⟩
  obtain ⟨one_module, entry, registered, read, marked⟩ :=
    standing.of_builds there done member stays
  have modules : ∀ other ∈ builds, host.modules.module? other.module = some entry.module := by
    intro other among
    unfold ModuleTable.module?
    rw [one_module other among, registered]
    rfl
  obtain ⟨device, loaded, live, known, same⟩ := linked.loaded?_eq_some registered marked
  refine ⟨entry, registered, read, marked, ?_, fun name has => ?_, ?_⟩
  · refine ⟨_, by unfold modulesOn; rw [live]; rfl, ?_⟩
    exact List.mem_map.mpr ⟨loaded, List.mem_of_find?_eq_some known, same⟩
  · exact createKernel_of_builds there done nonempty modules has
  · intro queue kernel range waits line made error queued on held owner failed
    have kernel_of : host.kernel? kernel = some (made.program, made.context, made.name) := by
      unfold kernel?
      rw [held, Option.map_some, kernelFace]
    obtain ⟨_, source', builds', owned, has⟩ := standing.kernels kernel _ _ _ kernel_of
    rw [owner, here] at owned
    cases owned
    have text : program.source = source := congrArg (fun face => face.2.1) face
    have present := has build member (owner ▸ stays) entry.module (text ▸ read)
    have named := KernelModule.parse_name read
    cases outcome : perform (.enqueueKernel queue kernel range waits) host with
    | ok answer after =>
      rw [step_of_ok outcome] at failed
      cases failed
    | error cause after =>
      rw [step_of_error outcome] at failed
      cases failed
      rcases bind_eq_error_iff.mp outcome with refused | ⟨_, _, _, gives⟩
      · refine enqueueKernel_blameless queued held (owner ▸ there) ?_ present (on ▸ live)
          (named ▸ known) same refused
        rw [on]
        exact launchModule_of_builds done member modules
      · cases gives

/-- The text of a module with one kernel. -/
def oneKernel : String := "\x7b\"kernels\":[\x7b\"name\":\"k\"\x7d]\x7d"

/-- A program with one kernel is built. -/
def building : List Call :=
  [.platformIds, .createContext [⟨0, 1⟩] false,
    .createProgram ⟨0, 1⟩ [oneKernel],
    .buildProgram ⟨0, 1⟩ none none false]

/-- The kernel of a program that was just built can be made. -/
theorem built_program_runs_building :
    isBuilt (record building (twin 64 64)) ⟨0, 1⟩ = true ∧
    ∃ made : KernelHandle,
      (step (.createKernel ⟨0, 1⟩ "k") (run building (twin 64 64)).2).1 = .ok (.handle made) := by
  have built : isBuilt (record building (twin 64 64)) ⟨0, 1⟩ = true := by decide +kernel
  have builds_are : ((run building (twin 64 64)).2.registry.programs.get? ⟨0, 1⟩).bind
      Program.builds = some [.ofText "program0" oneKernel ⟨0, 1⟩] := by decide +kernel
  have stays : isWithdrawn (record building (twin 64 64)) ⟨0, 1⟩ "program0" = false := by
    decide +kernel
  have has : ((run building (twin 64 64)).2.modules.find? "program0").any
      (fun entry => (entry.module.kernel? "k").isSome) = true := by decide +kernel
  obtain ⟨program, builds, there, done, _, runs⟩ :=
    Run.built_program_runs (run_twin 64 64 building) built
  rw [there, Option.bind_some, done] at builds_are
  cases builds_are
  obtain ⟨entry, registered, _, _, _, makes, _⟩ := runs _ List.mem_cons_self stays
  rw [Build.module_ofText] at registered
  rw [registered, Option.any_some] at has
  exact ⟨built, makes "k" has⟩

/-- A program that was built can lose its module: the module can be unregistered by its name. -/
theorem not_always_registered :
    ¬ ∀ (history : List Exchange) (host : Host SimulatedDevice) (handle : ProgramHandle)
        (program : Program) (builds : List Build), Run history host →
      isBuilt history handle = true → host.registry.programs.get? handle = some program →
      program.builds = some builds →
      ∀ build ∈ builds, (host.modules.find? build.module).isSome = true := by
  intro claim
  have built : isBuilt (record (building ++ [.unregisterModule "program0"]) (twin 64 64))
      ⟨0, 1⟩ = true := by decide +kernel
  have builds_are : ((run (building ++ [.unregisterModule "program0"])
      (twin 64 64)).2.registry.programs.get? ⟨0, 1⟩).bind Program.builds =
        some [.ofText "program0" oneKernel ⟨0, 1⟩] := by decide +kernel
  have gone : ((run (building ++ [.unregisterModule "program0"])
      (twin 64 64)).2.modules.find? "program0").isSome = false := by decide +kernel
  obtain ⟨program, there, done⟩ := Option.bind_eq_some_iff.mp builds_are
  have registered := claim _ _ ⟨0, 1⟩ program _
    (run_twin 64 64 (building ++ [.unregisterModule "program0"])) built there done _
    List.mem_cons_self
  rw [Build.module_ofText, gone] at registered
  cases registered

end Host

end ComputeHost
