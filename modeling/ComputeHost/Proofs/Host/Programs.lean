/-
**Built programs and their modules.**

A program that was built names a module. From then on, until a call unregisters a module of that
name, the module is registered, is the one that was read from the text of the program, and is on the
devices of the build. No other call takes it away or puts another in its place.

* `isBuilt`, `isWithdrawn` — what the history says of a program and a name.
* `Standing` — the invariant; every call keeps it (`Transition.standing`, `Run.standing`).
-/

import ComputeHost.Proofs.Host.Run

namespace ComputeHost.Host

/-! ### What the history says -/

/-- Whether the call built the program, now or before. -/
def Exchange.builds (exchange : Exchange) (program : ProgramHandle) : Bool :=
  match exchange.call, exchange.result with
  | .buildProgram handle _ _ _, .ok _ => handle == program
  | _, _ => false

/-- Whether the call unregistered the module of a name. -/
def Exchange.withdraws (exchange : Exchange) (name : String) : Bool :=
  match exchange.call, exchange.result with
  | .unregisterModule other, .ok _ => other == name
  | _, _ => false

/-- Whether a build of the program has succeeded. -/
def isBuilt (history : List Exchange) (program : ProgramHandle) : Bool :=
  history.any fun exchange => exchange.builds program

/-- Whether the name was unregistered after a build of the program had succeeded. -/
def isWithdrawn : List Exchange → ProgramHandle → String → Bool
  | [], _, _ => false
  | exchange :: earlier, program, name =>
    isWithdrawn earlier program name || (exchange.withdraws name && isBuilt earlier program)

theorem builds_of_error (call : Call) (error : HostError) (program : ProgramHandle) :
    (⟨call, .error error⟩ : Exchange).builds program = false := by
  cases call <;> rfl

theorem builds_of_quiet {call : Call} (quiet : call.isQuiet = true)
    (result : Except HostError Answer) (program : ProgramHandle) :
    (⟨call, result⟩ : Exchange).builds program = false := by
  cases call <;> first | rfl | cases quiet

theorem isWithdrawn_of_cons {exchange : Exchange} {history : List Exchange}
    {program : ProgramHandle} {name : String}
    (stays : isWithdrawn (exchange :: history) program name = false) :
    isWithdrawn history program name = false ∧
      (exchange.withdraws name = true → isBuilt history program = false) := by
  unfold isWithdrawn at stays
  rw [Bool.or_eq_false_iff, Bool.and_eq_false_iff] at stays
  exact ⟨stays.1, fun withdraws => stays.2.resolve_left (by simp [withdraws])⟩

variable {host before middle after : Host SimulatedDevice} {history : List Exchange}
  {exchange : Exchange}

/-! ### The invariant -/

/-- A program, without the list of its kernels. -/
def program? (host : Host SimulatedDevice) (handle : ProgramHandle) :
    Option (ContextHandle × String × Option (List Build)) :=
  (host.registry.programs.get? handle).map programFace

/-- A kernel, without its arguments. -/
def kernel? (host : Host SimulatedDevice) (handle : KernelHandle) :
    Option (ProgramHandle × ContextHandle × String) :=
  (host.registry.kernels.get? handle).map kernelFace

/-- The module of the name is registered, was read from the text, and is loaded on the devices. -/
def Registered (host : Host SimulatedDevice) (name source : String)
    (devices : List DeviceHandle) : Prop :=
  ∃ entry, host.modules.find? name = some entry ∧
    KernelModule.parse name source = .ok entry.module ∧ ∀ device ∈ devices, device ∈ entry.loadedOn

/-- Built programs stand by their modules. -/
structure Standing (history : List Exchange) (host : Host SimulatedDevice) : Prop where
  /-- The history tells which programs are built. -/
  built : ∀ handle, isBuilt history handle =
    ((host.program? handle).bind fun face => face.2.2).isSome
  /-- The builds of a program are for some devices, all with one module and with the text as their
  binary. -/
  builds : ∀ handle context source builds,
    host.program? handle = some (context, source, some builds) →
      ∃ name targets, targets ≠ [] ∧ builds = targets.map (Build.ofText name source) ∧
        (isWithdrawn history handle name = false → host.Registered name source targets)
  /-- A kernel is one of the module of its program. -/
  kernels : ∀ handle program context name, host.kernel? handle = some (program, context, name) →
    ∃ owner source builds, host.program? program = some (owner, source, some builds) ∧
      ∀ build ∈ builds, isWithdrawn history program build.module = false →
        ∀ module, KernelModule.parse build.module source = .ok module →
          (module.kernel? name).isSome

/-- A new host has no programs. -/
theorem standing_new (settings : Settings) (devices : List SimulatedDevice) :
    Standing [] (Host.new settings devices) :=
  ⟨fun _ => rfl, fun _ _ _ _ found => absurd found.symm (Option.some_ne_none _),
    fun _ _ _ _ found => absurd found.symm (Option.some_ne_none _)⟩

/-- Programs stand where they and their kernels are as they were, and the modules of the built ones
are still registered. -/
theorem Standing.of_eq (standing : Standing history before)
    (programs : ∀ handle, after.program? handle = before.program? handle)
    (kernels : ∀ handle, after.kernel? handle = before.kernel? handle)
    (modules : ∀ handle name, isBuilt history handle = true →
      isWithdrawn history handle name = false → ∀ entry, before.modules.find? name = some entry →
        after.modules.find? name = some entry) : Standing history after := by
  refine ⟨fun handle => ?_, fun handle context source builds found => ?_,
    fun handle program context name found => ?_⟩
  · rw [programs]
    exact standing.built handle
  · rw [programs] at found
    obtain ⟨name, targets, nonempty, same, registered⟩ :=
      standing.builds handle context source builds found
    refine ⟨name, targets, nonempty, same, fun stays => ?_⟩
    obtain ⟨entry, there, read, loaded⟩ := registered stays
    have built : isBuilt history handle = true := by rw [standing.built, found]; rfl
    exact ⟨entry, modules handle name built stays entry there, read, loaded⟩
  · rw [kernels] at found
    simp only [programs]
    exact standing.kernels handle program context name found

theorem Standing.calm (standing : Standing history before) (calm : before.Calm after) :
    Standing history after :=
  standing.of_eq calm.programs calm.kernels fun _ _ _ _ _ found => by rw [calm.modules]; exact found

/-- A call that builds no program for the first time leaves the programs standing. -/
theorem Standing.note (standing : Standing history host)
    (known : ∀ program, exchange.builds program = true → isBuilt history program = true) :
    Standing (exchange :: history) host := by
  refine ⟨fun handle => ?_, fun handle context source builds found => ?_,
    fun handle program context name found => ?_⟩
  · rw [← standing.built]
    unfold isBuilt
    rw [List.any_cons]
    cases built : exchange.builds handle with
    | true => rw [Bool.true_or]; exact (known handle built).symm
    | false => rw [Bool.false_or]
  · obtain ⟨name, targets, nonempty, same, registered⟩ :=
      standing.builds handle context source builds found
    exact ⟨name, targets, nonempty, same, fun stays => registered (isWithdrawn_of_cons stays).1⟩
  · obtain ⟨owner, source, builds, there, has⟩ := standing.kernels handle program context name found
    exact ⟨owner, source, builds, there, fun build member stays =>
      has build member (isWithdrawn_of_cons stays).1⟩

/-- A call that builds nothing leaves the programs standing. -/
theorem Standing.bystander (standing : Standing history host)
    (builds : ∀ program, exchange.builds program = false) : Standing (exchange :: history) host :=
  standing.note fun program built => by rw [builds] at built; cases built

/-- Programs stand where nothing but devices changes. -/
theorem Standing.across (standing : Standing history before)
    {relation : SimulatedDevice → SimulatedDevice → Prop} (across : Across relation before after) :
    Standing history after := by
  obtain ⟨_, rfl⟩ := across.rest
  exact standing.of_eq (fun _ => rfl) (fun _ => rfl) fun _ _ _ _ _ found => found

/-! ### The calls that change programs -/

theorem program?_withProgram (packed : host.registry.programs.Packed) (program : Program)
    (handle : ProgramHandle) :
    (host.withProgram program).program? handle =
      (host.program? handle).or
        (if handle = (host.registry.programs.insert program).1 then some (programFace program)
        else none) :=
  packed.map_get?_insert programFace program handle

theorem kernel?_withKernel (packed : host.registry.kernels.Packed) (kernel : Kernel)
    (handle : KernelHandle) :
    (host.withKernel kernel).kernel? handle =
      (host.kernel? handle).or
        (if handle = (host.registry.kernels.insert kernel).1 then some (kernelFace kernel)
        else none) :=
  packed.map_get?_insert kernelFace kernel handle

/-- A new program is not built. -/
theorem Standing.withProgram (standing : Standing history host)
    (packed : host.registry.programs.Packed) {program : Program} (unbuilt : program.builds = none) :
    Standing history (host.withProgram program) := by
  have view := program?_withProgram packed program
  have face : programFace program = (program.context, program.source, none) := by
    rw [programFace, unbuilt]
  rw [face] at view
  refine ⟨fun handle => ?_, fun handle context source builds found => ?_,
    fun handle program' context name found => ?_⟩
  · rw [standing.built, view]
    cases host.program? handle with
    | some face => rfl
    | none =>
      rw [Option.none_or]
      split <;> rfl
  · rw [view, Option.or_eq_some_iff] at found
    rcases found with old | ⟨_, new⟩
    · exact standing.builds handle context source builds old
    · split at new <;> cases new
  · obtain ⟨owner, source, builds, there, has⟩ :=
      standing.kernels handle program' context name found
    refine ⟨owner, source, builds, ?_, has⟩
    rw [view, there, Option.some_or]

/-- The module that a new kernel is from. -/
theorem checkKernel_eq_ok {program : ProgramHandle} {name : String} {kernel : Kernel}
    (passes : checkKernel program name host = .ok kernel) :
    ∃ entry builds build rest module, host.registry.programs.get? program = some entry ∧
      entry.builds = some builds ∧ builds = build :: rest ∧
      host.modules.module? build.module = some module ∧ (module.kernel? name).isSome ∧
      kernelFace kernel = (program, entry.context, name) := by
  unfold checkKernel programModule at passes
  simp only [Action.except_bind_eq_ok_iff, Arena.checked_eq_ok_iff] at passes
  obtain ⟨entry, there, module, found, passes⟩ := passes
  split at found
  · rename_i held looked
    cases found
    obtain ⟨build, first, registered⟩ := Option.bind_eq_some_iff.mp looked
    split at passes
    · cases passes
    · rename_i signature has
      cases passes
      cases builds : entry.builds with
      | none =>
        rw [builds] at first
        cases first
      | some list =>
        rw [builds, Option.getD_some] at first
        obtain ⟨rest, rfl⟩ := List.head?_eq_some_iff.mp first
        exact ⟨entry, _, build, rest, module, there, builds, rfl, registered, by rw [has]; rfl, rfl⟩
  · cases found

/-- A new kernel is one of the module of its program. -/
theorem Standing.withKernel (standing : Standing history host)
    (packed : host.registry.kernels.Packed) {program : ProgramHandle} {name : String}
    {kernel : Kernel} (passes : checkKernel program name host = .ok kernel) :
    Standing history (host.withKernel kernel) := by
  obtain ⟨entry, builds, build, rest, module, there, built, same, registered, has, face⟩ :=
    checkKernel_eq_ok passes
  refine ⟨standing.built, standing.builds, fun handle program' context name' found => ?_⟩
  rw [kernel?_withKernel packed, Option.or_eq_some_iff] at found
  rcases found with old | ⟨_, new⟩
  · exact standing.kernels handle program' context name' old
  · split at new
    · rw [face] at new
      cases new
      have here : host.program? program = some (entry.context, entry.source, some builds) := by
        unfold program?
        rw [there, Option.map_some, programFace, built]
      refine ⟨entry.context, entry.source, builds, here, fun one member stays read readable => ?_⟩
      -- all builds of the program have one module, and the kernel was found in it
      obtain ⟨module_name, targets, _, all, stood⟩ :=
        standing.builds program entry.context entry.source builds here
      have named : ∀ build ∈ builds, build.module = module_name := by
        intro build member
        rw [all] at member
        obtain ⟨_, _, rfl⟩ := List.mem_map.mp member
        rfl
      rw [named one member] at stays readable
      obtain ⟨found, registered', read', _⟩ := stood stays
      have first := named build (same ▸ List.mem_cons_self)
      unfold ModuleTable.module? at registered
      rw [first, registered', Option.map_some] at registered
      obtain rfl := Option.some.inj registered
      rw [read'] at readable
      obtain rfl := Except.ok.inj readable
      exact has
    · cases new

/-- A module is unregistered: the programs built into it are withdrawn, the others stand. -/
theorem Standing.unregistered (standing : Standing history before) {name : String}
    {answer : Answer} (stripped : before.Stripped name middle) :
    Standing (⟨.unregisterModule name, .ok answer⟩ :: history)
      { middle with modules := before.modules.remove name } := by
  obtain ⟨_, rfl⟩ := stripped.across.rest
  refine (standing.bystander fun _ => rfl).of_eq (fun _ => rfl) (fun _ => rfl)
    fun handle other built stays entry there => ?_
  have differ : other ≠ name := by
    rintro rfl
    have unbuilt := (isWithdrawn_of_cons stays).2 (beq_self_eq_true other)
    exact Bool.false_ne_true (unbuilt.symm.trans built)
  exact (ModuleTable.find?_remove differ).trans there

/-- A program that is built already stays as it is. -/
theorem Standing.rebuilt (standing : Standing history host) {program : ProgramHandle}
    {devices : Option (List DeviceHandle)} {options : Option String} {notify : Bool}
    {answer : Answer} {entry : Program} (there : host.registry.programs.get? program = some entry)
    (done : entry.builds.isSome = true) :
    Standing (⟨.buildProgram program devices options notify, .ok answer⟩ :: history) host := by
  refine standing.note fun handle builds => ?_
  obtain rfl := eq_of_beq (builds : (program == handle) = true)
  rw [standing.built]
  unfold program?
  rw [there, Option.map_some, Option.bind_some, programFace, done]

/-- What a build changes of the programs. -/
theorem program?_built {name : String} {program : ProgramHandle} {entry : Program}
    (relinked : Relinked name before middle)
    (there : before.registry.programs.get? program = some entry) (builds : List Build)
    (handle : ProgramHandle) :
    (middle.built program builds).program? handle =
      if handle = program then some (entry.context, entry.source, some builds)
      else before.program? handle := by
  obtain ⟨_, _, _, rfl⟩ := relinked.rest
  unfold program? Host.built
  simp only [Arena.get?_modify]
  split
  · rw [there]
    rfl
  · rfl

/-- A program that was just built stands by the module that was read from its text. -/
theorem Standing.built_program (standing : Standing history before) {program : ProgramHandle}
    {devices : Option (List DeviceHandle)} {options : Option String} {notify : Bool}
    {answer : Answer} {entry : Program} {targets : List DeviceHandle} {module : KernelModule}
    {name : String} (there : before.registry.programs.get? program = some entry)
    (unbuilt : entry.builds = none) (nonempty : targets ≠ [])
    (new : before.modules.find? name = none)
    (read : KernelModule.parse name entry.source = .ok module)
    (relinked : Relinked name before middle) (grown : Grows name ⟨module, targets⟩ middle) :
    Standing (⟨.buildProgram program devices options notify, .ok answer⟩ :: history)
      (middle.built program (targets.map (Build.ofText name entry.source))) := by
  have view := program?_built relinked there (targets.map (Build.ofText name entry.source))
  have kernels : ∀ handle, (middle.built program
      (targets.map (Build.ofText name entry.source))).kernel? handle = before.kernel? handle := by
    obtain ⟨_, _, _, rfl⟩ := relinked.rest
    exact fun _ => rfl
  refine ⟨fun handle => ?_, fun handle context source builds found => ?_,
    fun handle owner context kernel found => ?_⟩
  · have same : isBuilt (⟨.buildProgram program devices options notify, .ok answer⟩ :: history)
        handle = (program == handle || isBuilt history handle) := rfl
    rw [same, standing.built, view]
    by_cases here : handle = program
    · rw [if_pos here, here, beq_self_eq_true, Bool.true_or]
      rfl
    · have differ : (program == handle) = false := by simpa using Ne.symm here
      rw [if_neg here, differ, Bool.false_or]
  · rw [view] at found
    split at found
    · cases found
      refine ⟨name, targets, nonempty, rfl, fun _ => ?_⟩
      obtain ⟨later, registered, same, loaded⟩ := grown
      exact ⟨later, registered, by rw [same]; exact read, loaded⟩
    · obtain ⟨other, devices, some_devices, same, registered⟩ :=
        standing.builds handle context source builds found
      refine ⟨other, devices, some_devices, same, fun stays => ?_⟩
      obtain ⟨held, known, read', loaded⟩ := registered (isWithdrawn_of_cons stays).1
      -- the name of the build was not taken, so it is another one
      have differ : other ≠ name := by
        rintro rfl
        rw [new] at known
        cases known
      exact ⟨held, (ModuleTable.find?_of_remove_eq relinked.others differ).trans known, read',
        loaded⟩
  · rw [kernels] at found
    obtain ⟨context', source, builds, owned, has⟩ :=
      standing.kernels handle owner context kernel found
    have differ : owner ≠ program := by
      rintro rfl
      unfold program? at owned
      rw [there, Option.map_some, programFace, unbuilt] at owned
      cases owned
    refine ⟨context', source, builds, ?_, fun build member stays =>
      has build member (isWithdrawn_of_cons stays).1⟩
    rw [view, if_neg differ]
    exact owned

/-! ### Every call -/

/-- **Every call leaves the built programs standing**, but for the name that it unregisters. -/
theorem Transition.standing {call : Call} {result : Except HostError Answer}
    (transition : Transition before call result after) (regular : before.Regular)
    (standing : Standing history before) : Standing (⟨call, result⟩ :: history) after := by
  cases transition with
  | quiet quiet calm => exact (standing.bystander (builds_of_quiet quiet _)).calm calm
  | failed calm => exact (standing.bystander (builds_of_error _ _)).calm calm
  | listed unlisted =>
    exact (standing.bystander (builds_of_quiet rfl _)).of_eq (fun _ => rfl) (fun _ => rfl)
      fun _ _ _ _ _ found => found
  | contextMade =>
    exact (standing.bystander fun _ => rfl).of_eq (fun _ => rfl) (fun _ => rfl)
      fun _ _ _ _ _ found => found
  | queueMade _ _ calm settled =>
    refine Standing.calm ?_ settled
    exact ((standing.bystander fun _ => rfl).calm calm).of_eq (fun _ => rfl) (fun _ => rfl)
      fun _ _ _ _ _ found => found
  | programMade settled =>
    exact ((standing.bystander fun _ => rfl).withProgram regular.packed.programs rfl).calm settled
  | kernelMade passes settled =>
    exact ((standing.bystander fun _ => rfl).withKernel regular.packed.kernels passes).calm settled
  | bufferMade _ _ _ _ across _ _ settled =>
    refine Standing.calm ?_ settled
    exact ((standing.bystander fun _ => rfl).across across).of_eq (fun _ => rfl) (fun _ => rfl)
      fun _ _ _ _ _ found => found
  | written _ _ _ across _ => exact (standing.bystander fun _ => rfl).across across
  | registered new read =>
    exact (standing.bystander fun _ => rfl).of_eq (fun _ => rfl) (fun _ => rfl)
      fun _ _ _ _ _ found => ModuleTable.find?_push found
  | unregistered _ stripped => exact standing.unregistered stripped
  | rebuilt there done => exact standing.rebuilt there done
  | built there unbuilt nonempty new read relinked _ grown =>
    exact standing.built_program there unbuilt nonempty new read relinked grown
  | idle _ => exact standing.bystander fun _ => rfl
  | stranded _ strands => exact (standing.bystander (builds_of_error _ _)).across strands.across
  | migrated _ done =>
    exact ((standing.bystander fun _ => rfl).across done.across).of_eq (fun _ => rfl) (fun _ => rfl)
      fun _ _ _ _ _ found => found

/-- **Built programs stand after every run.** -/
theorem Run.standing (run : Run history host) : Standing history host := by
  induction run with
  | start settings devices => exact standing_new settings _
  | call run call ih => exact (step_transition run.regular call).standing run.regular ih
  | turn _ position switch ih =>
    exact ih.calm (adjust_calm _ position fun device => device.alike_turn switch)

end ComputeHost.Host
