/-
**Binaries of programs.**

A program is asked for its binaries and for their sizes. Both answers go through the devices of its
context, whatever list of devices it was built for. The history tells for which devices that was:
the first build that succeeded decides, and later ones find the program built.

* `targets?`, `isBuiltFor` — what the history says of the builds of a program.
* `Targeted` — the builds are for what was asked; every call keeps it (`Run.targeted`).
* `Standing.binary_eq` — what is stored with a build is the text of the program.
* `Run.answers_read_back` — the bytes of every answer, and of the binaries after every run.
-/

import ComputeHost.Proofs.Host.Answers
import ComputeHost.Proofs.Host.Commitment
import ComputeHost.Proofs.Host.Programs

namespace ComputeHost.Host

open ComputeHost.Action

/-! ### What the history says -/

/-- The devices that the call, if it succeeded, was to build the program for; without a list, all of
the context. -/
def Exchange.targets? (exchange : Exchange) (program : ProgramHandle) :
    Option (Option (List DeviceHandle)) :=
  match exchange.call, exchange.result with
  | .buildProgram handle devices _ _, .ok _ => if handle = program then some devices else none
  | _, _ => none

/-- The devices of the first build of the program that succeeded. -/
def targets? : List Exchange → ProgramHandle → Option (Option (List DeviceHandle))
  | [], _ => none
  | exchange :: earlier, program => (targets? earlier program).or (exchange.targets? program)

/-- Whether the program was built for the device, which is one of its context. -/
def isBuiltFor (history : List Exchange) (program : ProgramHandle) (device : DeviceHandle) : Bool :=
  (targets? history program).any fun devices => devices.all fun list => list.contains device

variable {host before middle after : Host SimulatedDevice} {history : List Exchange}
  {exchange : Exchange} {program : ProgramHandle}

theorem Exchange.isSome_targets? :
    (exchange.targets? program).isSome = exchange.builds program := by
  obtain ⟨call, result⟩ := exchange
  cases result with
  | error error => cases call <;> rfl
  | ok answer =>
    cases call with
    | buildProgram handle =>
      unfold targets? builds
      by_cases same : handle = program
      · simp [same]
      · simp [same]
    | _ => rfl

theorem isSome_targets? : (targets? history program).isSome = isBuilt history program := by
  induction history with
  | nil => rfl
  | cons exchange earlier ih =>
    unfold targets? isBuilt
    rw [Option.isSome_or, ih, Exchange.isSome_targets?, List.any_cons, Bool.or_comm]
    rfl

/-! ### The invariant -/

/-- The devices of a context. -/
def members? (host : Host SimulatedDevice) (context : ContextHandle) : Option (List DeviceHandle) :=
  (host.registry.contexts.get? context).map Context.devices

/-- Every program has builds for the devices that its first successful build was to be for. -/
def Targeted (history : List Exchange) (host : Host SimulatedDevice) : Prop :=
  ∀ handle context source builds, host.program? handle = some (context, source, builds) →
    ∃ members, host.members? context = some members ∧
      builds.map (List.map Build.device) =
        (targets? history handle).map fun devices => devices.getD members

/-- Programs are as they were, and so are the contexts that there were. -/
structure Onward (before after : Host SimulatedDevice) : Prop where
  programs : ∀ handle, after.program? handle = before.program? handle
  contexts : ∀ context members, before.members? context = some members →
    after.members? context = some members

theorem Onward.of_same (programs : after.registry.programs = before.registry.programs)
    (contexts : after.registry.contexts = before.registry.contexts) : before.Onward after := by
  refine ⟨fun handle => ?_, fun context members known => ?_⟩
  · unfold program?
    rw [programs]
  · unfold members? at known ⊢
    rw [contexts]
    exact known

theorem Calm.onward (calm : before.Calm after) : before.Onward after :=
  ⟨calm.programs, fun context _ known => (calm.contexts context).trans known⟩

theorem Across.onward {relation : SimulatedDevice → SimulatedDevice → Prop}
    (across : Across relation before after) : before.Onward after := by
  obtain ⟨_, rfl⟩ := across.rest
  exact ⟨fun _ => rfl, fun _ _ known => known⟩

theorem onward_withContext (packed : host.registry.contexts.Packed) (context : Context) :
    host.Onward (host.withContext context) := by
  refine ⟨fun _ => rfl, fun handle members known => ?_⟩
  have view : (host.withContext context).members? handle = _ :=
    packed.map_get?_insert Context.devices context handle
  unfold members? at known
  rw [view, known, Option.some_or]

theorem Targeted.onward (targeted : Targeted history before) (onward : before.Onward after) :
    Targeted history after := by
  intro handle context source builds found
  rw [onward.programs] at found
  obtain ⟨members, known, same⟩ := targeted handle context source builds found
  exact ⟨members, onward.contexts context members known, same⟩

/-- A call that builds nothing adds nothing to what the history says of builds. -/
theorem Targeted.note (targeted : Targeted history host)
    (idle : ∀ program, exchange.targets? program = none) : Targeted (exchange :: history) host := by
  intro handle context source builds found
  obtain ⟨members, known, same⟩ := targeted handle context source builds found
  refine ⟨members, known, ?_⟩
  rw [targets?, idle, Option.or_none]
  exact same

/-! ### New programs and builds -/

theorem program?_of_live {entry : Program}
    (live : host.registry.programs.get? program = some entry) :
    host.program? program = some (entry.context, entry.source, entry.builds) := by
  unfold program?
  rw [live]
  rfl

/-- The history knows of no build where there is none. -/
theorem Standing.targets?_eq_none (standing : Standing history host)
    (unbuilt : ((host.program? program).bind fun face => face.2.2) = none) :
    targets? history program = none := by
  rw [← Option.not_isSome_iff_eq_none, isSome_targets?, standing.built, unbuilt]
  exact Bool.false_ne_true

section Built

variable {devices : Option (List DeviceHandle)} {options : Option String} {notify : Bool}
  {answer : Answer}

/-- What the history says after a build that succeeded: what it said before, or else what that build
was for. -/
theorem targets?_build (handle : ProgramHandle) :
    targets? (⟨.buildProgram program devices options notify, .ok answer⟩ :: history) handle =
      (targets? history handle).or (if program = handle then some devices else none) := rfl

/-- A new program has no builds, and the history knows of none. -/
theorem Targeted.withProgram (targeted : Targeted history host) (standing : Standing history host)
    (packed : host.registry.programs.Packed) {program : Program} (unbuilt : program.builds = none)
    (live : (host.members? program.context).isSome) :
    Targeted history (host.withProgram program) := by
  intro handle context source builds found
  rw [program?_withProgram packed, Option.or_eq_some_iff] at found
  rcases found with old | ⟨absent, new⟩
  · exact targeted handle context source builds old
  · split at new
    · obtain ⟨members, known⟩ := Option.isSome_iff_exists.mp live
      have unknown : targets? history handle = none :=
        standing.targets?_eq_none (by rw [absent, Option.bind_none])
      rw [programFace, unbuilt] at new
      cases new
      refine ⟨members, known, ?_⟩
      rw [unknown]
      rfl
    · cases new

/-- A build of a program that is built already changes nothing. -/
theorem Targeted.rebuilt (targeted : Targeted history host) (standing : Standing history host)
    {entry : Program} (there : host.registry.programs.get? program = some entry)
    (done : entry.builds.isSome = true) :
    Targeted (⟨.buildProgram program devices options notify, .ok answer⟩ :: history) host := by
  intro handle context source builds found
  obtain ⟨members, known, same⟩ := targeted handle context source builds found
  refine ⟨members, known, ?_⟩
  by_cases here : program = handle
  · subst here
    have built : (targets? history program).isSome = true := by
      rw [isSome_targets?, standing.built, program?_of_live there, Option.bind_some, done]
    rw [targets?_build, Option.or_of_isSome built]
    exact same
  · rw [targets?_build, if_neg here, Option.or_none]
    exact same

/-- What a build leaves of the programs. -/
theorem program?_built_self {entry : Program}
    (there : host.registry.programs.get? program = some entry) (builds : List Build)
    (handle : ProgramHandle) :
    (host.built program builds).program? handle =
      if handle = program then some (entry.context, entry.source, some builds)
      else host.program? handle :=
  program?_built (.refl "" host) there builds handle

/-- The first build of a program is for what was asked for. -/
theorem Targeted.committed (targeted : Targeted history before) (standing : Standing history before)
    {entry : Program} {context : Context} {module : KernelModule}
    (there : before.registry.programs.get? program = some entry) (unbuilt : entry.builds = none)
    (within : before.registry.contexts.get? entry.context = some context)
    (committed : Committed program entry (devices.getD context.devices) module before after) :
    Targeted (⟨.buildProgram program devices options notify, .ok answer⟩ :: history) after := by
  obtain ⟨_, _, _, rest⟩ := committed.rest
  have view : ∀ handle, after.program? handle =
      if handle = program then some (entry.context, entry.source,
        some ((devices.getD context.devices).map (Build.ofText module.name entry.source)))
      else before.program? handle := fun handle => by
    rw [rest]
    exact program?_built_self there _ handle
  have contexts : ∀ handle, after.members? handle = before.members? handle := fun _ => by
    rw [rest]
    rfl
  intro handle owner source builds found
  rw [view] at found
  simp only [contexts]
  by_cases here : handle = program
  · subst here
    have fresh : targets? history handle = none :=
      standing.targets?_eq_none (by rw [program?_of_live there, Option.bind_some, unbuilt])
    rw [if_pos rfl] at found
    cases found
    refine ⟨context.devices, ?_, ?_⟩
    · unfold members?
      rw [within, Option.map_some]
    · rw [targets?_build, fresh, Option.none_or, if_pos rfl, Option.map_some, Option.map_some,
        List.map_map]
      exact congrArg some (List.map_id _)
  · rw [if_neg here] at found
    obtain ⟨members, known, same⟩ := targeted handle owner source builds found
    refine ⟨members, known, ?_⟩
    rw [targets?_build, if_neg (Ne.symm here), Option.or_none]
    exact same

end Built

/-! ### Every call -/

/-- A program is made in a live context. -/
theorem members?_of_made {context : ContextHandle} {sources : List String} {answer : Answer}
    (made : (step (.createProgram context sources) host).1 = .ok answer) :
    (host.members? context).isSome := by
  cases found : discard (host.registry.contexts.checked context) with
  | error error =>
    have failed : createProgram context sources host = .error error host := by
      unfold createProgram
      rw [discard_check]
      exact bind_of_error (check_of_error found)
    rw [step_of_error (map_of_error failed)] at made
    cases made
  | ok nothing =>
    obtain ⟨entry, there⟩ := discard_eq_ok_iff.mp found
    unfold members?
    rw [Arena.checked_eq_ok_iff.mp there]
    rfl

/-- **Every call that builds nothing leaves the builds as they were asked for.** -/
theorem Transition.targeted {call : Call} {result : Except HostError Answer}
    (transition : Transition before call result after) (regular : before.Regular)
    (standing : Standing history before)
    (idle : ∀ program, Exchange.targets? ⟨call, result⟩ program = none)
    (within : ∀ context sources answer, call = .createProgram context sources →
      result = .ok answer → (before.members? context).isSome)
    (targeted : Targeted history before) : Targeted (⟨call, result⟩ :: history) after := by
  have noted : Targeted (⟨call, result⟩ :: history) before := targeted.note idle
  cases transition with
  | quiet _ calm => exact noted.onward calm.onward
  | failed calm => exact noted.onward calm.onward
  | listed _ => exact noted.onward (.of_same rfl rfl)
  | contextMade => exact noted.onward (onward_withContext regular.packed.contexts _)
  | queueMade _ _ calm settled =>
    refine Targeted.onward ?_ settled.onward
    exact (noted.onward calm.onward).onward (.of_same rfl rfl)
  | programMade settled =>
    refine Targeted.onward ?_ settled.onward
    have live := within _ _ _ rfl rfl
    exact (targeted.withProgram standing regular.packed.programs rfl live).note idle
  | kernelMade _ settled =>
    refine Targeted.onward ?_ settled.onward
    exact noted.onward (.of_same rfl rfl)
  | bufferMade _ _ _ _ across _ _ settled =>
    refine Targeted.onward ?_ settled.onward
    exact (noted.onward across.onward).onward (.of_same rfl rfl)
  | written _ _ _ across _ => exact noted.onward across.onward
  | registered _ _ => exact noted.onward (.of_same rfl rfl)
  | unregistered _ stripped =>
    exact (noted.onward stripped.across.onward).onward (.of_same rfl rfl)
  | rebuilt _ _ => exact nomatch (idle _).symm.trans (if_pos rfl)
  | built _ _ _ _ _ _ _ _ => exact nomatch (idle _).symm.trans (if_pos rfl)
  | idle _ => exact noted
  | stranded _ strands => exact noted.onward strands.across.onward
  | migrated _ done => exact (noted.onward done.across.onward).onward (.of_same rfl rfl)

/-- A build that succeeds leaves the builds as they were asked for. -/
theorem Run.targeted_build (run : Run history host) (targeted : Targeted history host)
    {devices : Option (List DeviceHandle)} {options : Option String} {notify : Bool}
    {answer : Answer}
    (done : (step (.buildProgram program devices options notify) host).1 = .ok answer) :
    Targeted (⟨.buildProgram program devices options notify, .ok answer⟩ :: history)
      (step (.buildProgram program devices options notify) host).2 := by
  cases outcome : buildProgram program devices options notify host with
  | error error after =>
    rw [step_of_error (bind_of_error outcome)] at done
    cases done
  | ok nothing after =>
    rw [step_of_ok (bind_of_ok outcome)]
    cases passes : checkBuild program devices options notify host with
    | error error =>
      have failed : buildProgram program devices options notify host = .error error host :=
        bind_of_error (check_of_error passes)
      rw [failed] at outcome
      cases outcome
    | ok found =>
      obtain ⟨entry, targets⟩ := found
      obtain ⟨live, context, there, rfl⟩ := checkBuild_targets passes
      cases builds : entry.builds with
      | some list =>
        have skipped : buildProgram program devices options notify host = .ok () host := by
          unfold buildProgram
          rw [bind_of_ok (check_of_ok passes)]
          simp only [builds]
          rfl
        rw [skipped] at outcome
        cases outcome
        exact targeted.rebuilt run.standing live (by rw [builds]; rfl)
      | none =>
        obtain ⟨module, committed⟩ := buildProgram_committed run.regular
          run.session.upheld.intact passes builds outcome
        exact targeted.committed run.standing live builds there committed

/-- **After every run, programs have builds for what was asked for.** -/
theorem Run.targeted (run : Run history host) : Targeted history host := by
  induction run with
  | start settings devices =>
    exact fun _ _ _ _ found => absurd found.symm (Option.some_ne_none _)
  | @call history host run call ih =>
    cases result : (step call host).1 with
    | error error =>
      have transition := step_transition run.regular call
      rw [result] at transition
      exact transition.targeted run.regular run.standing (fun _ => by cases call <;> rfl) nofun ih
    | ok answer =>
      have other : (∀ program, Exchange.targets? ⟨call, .ok answer⟩ program = none) →
          Targeted (⟨call, .ok answer⟩ :: history) (step call host).2 := by
        intro idle
        have transition := step_transition run.regular call
        rw [result] at transition
        refine transition.targeted run.regular run.standing idle ?_ ih
        rintro context sources _ rfl _
        exact members?_of_made result
      cases call with
      | buildProgram program devices options notify => exact run.targeted_build ih result
      | _ => exact other fun _ => rfl
  | turn _ position switch ih =>
    exact ih.onward (adjust_calm _ position fun device => device.alike_turn switch).onward

/-! ### Asking a program -/

theorem isSome_buildFor?_iff {program : Program} {device : DeviceHandle} :
    (program.buildFor? device).isSome = true ↔
      ∃ devices, program.builds.map (List.map Build.device) = some devices ∧ device ∈ devices := by
  unfold Program.buildFor?
  rw [List.find?_isSome]
  cases program.builds with
  | none => simp
  | some builds => simp

theorem isBuiltFor_iff {members : List DeviceHandle} {device : DeviceHandle}
    (member : device ∈ members) :
    isBuiltFor history program device = true ↔
      ∃ devices, ((targets? history program).map fun asked => asked.getD members) = some devices ∧
        device ∈ devices := by
  unfold isBuiltFor
  cases targets? history program with
  | none => simp
  | some asked =>
    cases asked with
    | none => simp [member]
    | some devices => simp

/-- The binary of every build is the text that it was built from. -/
theorem Standing.binary_eq (standing : Standing history host) {handle : ProgramHandle}
    {program : Program} (live : host.registry.programs.get? handle = some program)
    {device : DeviceHandle} {build : Build} (found : program.buildFor? device = some build) :
    build.binary = Bytes.ofText program.source := by
  cases builds : program.builds with
  | none =>
    unfold Program.buildFor? at found
    rw [builds] at found
    cases found
  | some list =>
    have face := program?_of_live live
    rw [builds] at face
    obtain ⟨name, targets, _, rfl, _⟩ := standing.builds handle _ _ list face
    unfold Program.buildFor? at found
    rw [builds] at found
    obtain ⟨_, _, rfl⟩ := List.mem_map.mp (List.mem_of_find?_eq_some found)
    rfl

theorem Standing.binaryFor_eq (standing : Standing history host) {handle : ProgramHandle}
    {program : Program} (live : host.registry.programs.get? handle = some program)
    (device : DeviceHandle) :
    program.binaryFor device =
      if (program.buildFor? device).isSome then Bytes.ofText program.source else [] := by
  unfold Program.binaryFor
  cases found : program.buildFor? device with
  | none => rfl
  | some build => exact standing.binary_eq live found

/-- A program has a binary for the devices of its context that it was built for. -/
theorem Targeted.binaryFor (targeted : Targeted history host) (standing : Standing history host)
    {handle : ProgramHandle} {program : Program} {context : Context}
    (live : host.registry.programs.get? handle = some program)
    (within : host.registry.contexts.get? program.context = some context) {device : DeviceHandle}
    (member : device ∈ context.devices) :
    program.binaryFor device =
      if isBuiltFor history handle device then Bytes.ofText program.source else [] := by
  obtain ⟨members, known, same⟩ := targeted handle _ _ _ (program?_of_live live)
  obtain rfl : context.devices = members := by
    unfold members? at known
    rw [within] at known
    exact Option.some.inj known
  have listed : (program.buildFor? device).isSome = isBuiltFor history handle device := by
    rw [Bool.eq_iff_iff, isSome_buildFor?_iff, isBuiltFor_iff member, same]
  rw [standing.binaryFor_eq live, listed]

/-- What a live program answers about its text and about the devices of its context. The host stays
as it is. -/
theorem step_programInfo {handle : ProgramHandle} {program : Program} {context : Context}
    (live : host.registry.programs.get? handle = some program)
    (within : host.registry.contexts.get? program.context = some context) :
    step (.programInfo handle .source) host = (.ok (.info (.text program.source)), host) ∧
      step (.programInfo handle .devices) host = (.ok (.info (.devices context.devices)), host) ∧
      step (.programInfo handle .binarySizes) host =
        (.ok (.info (.sizes (context.devices.map fun device =>
          UInt64.ofNat (program.binaryFor device).length))), host) ∧
      step (.programInfo handle .binaries) host =
        (.ok (.info (.binaries (context.devices.map program.binaryFor))), host) := by
  have named := Arena.checked_eq_ok_iff.mpr live
  have owned := Arena.checked_eq_ok_iff.mpr within
  have answered : ∀ {query value}, askProgram handle query host = .ok value →
      step (.programInfo handle query) host = (.ok (.info value), host) :=
    fun asked => step_of_ok (map_of_ok (check_of_ok asked))
  refine ⟨answered ?_, answered ?_, answered ?_, answered ?_⟩
  all_goals
    exact except_bind_eq_ok_iff.mpr
      ⟨program, named, except_bind_eq_ok_iff.mpr ⟨context, owned, rfl⟩⟩

/-- **The lengths that a program gives are the borders of its binaries.** -/
theorem cut_binaries {program : Program} {devices : List DeviceHandle}
    (short : ∀ device, (program.binaryFor device).length < UInt64.size) :
    InfoValue.cut
        ((devices.map fun device => UInt64.ofNat (program.binaryFor device).length).map
          UInt64.toNat)
        (InfoValue.binaries (devices.map program.binaryFor)).toBytes =
      devices.map program.binaryFor := by
  have lengths : (devices.map fun device =>
      UInt64.ofNat (program.binaryFor device).length).map UInt64.toNat =
        (devices.map program.binaryFor).map List.length := by
    rw [List.map_map, List.map_map]
    exact List.map_congr_left fun device _ => UInt64.toNat_ofNat_of_lt (short device)
  rw [lengths]
  exact InfoValue.cut_flatten _

/-- **Answers read back.** With nothing but a place for the size, the size is told. With a buffer,
the answer is copied exactly if it fits; then it is read back from the front of the buffer by its
kind, unless it is binaries. Otherwise both places stay as they are. After every run, the bytes of
the binaries of a program, cut at the lengths that go with them, are for each device of its context
the text of the program if it was built for the device, and nothing if it was not. The lengths are
words, so the text has to be one whose length is a word. -/
theorem Run.answers_read_back (run : Run history host) :
    (∀ (value : InfoValue) slot,
      value.copyInto none (some slot) = ⟨.ok (), none, some value.toBytes.length⟩) ∧
    (∀ (value : InfoValue) out slot,
      ((value.copyInto (some out) slot).result = .ok () ↔ value.toBytes.length ≤ out.length) ∧
      ((value.copyInto (some out) slot).result = .ok () →
        InfoValue.Copied value out slot (value.copyInto (some out) slot)) ∧
      ((value.copyInto (some out) slot).result ≠ .ok () →
        InfoValue.Withheld out slot (value.copyInto (some out) slot))) ∧
    ∀ handle program, host.registry.programs.get? handle = some program →
      (Bytes.ofText program.source).length < UInt64.size →
      ∃ devices sizes binaries,
        step (.programInfo handle .source) host = (.ok (.info (.text program.source)), host) ∧
        step (.programInfo handle .devices) host = (.ok (.info (.devices devices)), host) ∧
        step (.programInfo handle .binarySizes) host = (.ok (.info (.sizes sizes)), host) ∧
        step (.programInfo handle .binaries) host = (.ok (.info (.binaries binaries)), host) ∧
        InfoValue.cut (sizes.map UInt64.toNat) (InfoValue.binaries binaries).toBytes =
          devices.map fun device =>
            if isBuiltFor history handle device then Bytes.ofText program.source else [] := by
  refine ⟨fun value slot => value.copyInto_none (some slot), fun value out slot => ?_,
    fun handle program live short => ?_⟩
  · by_cases room : value.toBytes.length ≤ out.length
    · have done : (value.copyInto (some out) slot).result = .ok () := by
        rw [InfoValue.copyInto_of_large room]
      exact ⟨iff_of_true done room, fun _ => InfoValue.copied_of_large slot room,
        fun failed => absurd done failed⟩
    · have withheld := InfoValue.withheld_of_small slot (Nat.lt_of_not_le room)
      obtain ⟨message, refused⟩ := withheld.result
      have failed : (value.copyInto (some out) slot).result ≠ .ok () := by
        rw [refused]
        exact nofun
      exact ⟨iff_of_false failed room, fun done => absurd done failed, fun _ => withheld⟩
  · obtain ⟨context, within⟩ := Arena.contains_iff.mp
      (run.session.upheld.intact.programs.live_of_get? live)
    obtain ⟨source, devices, sizes, binaries⟩ := step_programInfo live within
    refine ⟨_, _, _, source, devices, sizes, binaries, ?_⟩
    have bounded : ∀ device, (program.binaryFor device).length < UInt64.size := by
      intro device
      rw [run.standing.binaryFor_eq live]
      split
      · exact short
      · exact Nat.two_pow_pos 64
    rw [cut_binaries bounded]
    exact List.map_congr_left fun device member =>
      run.targeted.binaryFor run.standing live within member

/-- A program built for the second device of its context, named twice, and then once more for
all. -/
def rebuilding : List Call :=
  [.platformIds, .createContext [⟨1, 1⟩, ⟨0, 1⟩] false, .createProgram ⟨0, 1⟩ ["\x7b", "\x7d"],
    .buildProgram ⟨0, 1⟩ (some [⟨0, 1⟩, ⟨0, 1⟩]) none false, .buildProgram ⟨0, 1⟩ none none false]

/-- A text fits a buffer of five bytes and not one of two; and the first device has no binary. -/
theorem answers_read_back_rebuilding :
    InfoValue.Copied (.text "é") [7, 7, 7, 7, 7] (some 9)
        ((InfoValue.text "é").copyInto (some [7, 7, 7, 7, 7]) (some 9)) ∧
      InfoValue.Withheld [7, 7] (some 9)
        ((InfoValue.text "é").copyInto (some [7, 7]) (some 9)) ∧
      ∃ sizes binaries,
        step (.programInfo ⟨0, 1⟩ .binarySizes) (run rebuilding (twin 64 64)).2 =
          (.ok (.info (.sizes sizes)), (run rebuilding (twin 64 64)).2) ∧
        step (.programInfo ⟨0, 1⟩ .binaries) (run rebuilding (twin 64 64)).2 =
          (.ok (.info (.binaries binaries)), (run rebuilding (twin 64 64)).2) ∧
        InfoValue.cut (sizes.map UInt64.toNat) (InfoValue.binaries binaries).toBytes =
          [[], [0x7b, 0x7d]] := by
  obtain ⟨_, copies, asks⟩ := Run.answers_read_back (run_twin 64 64 rebuilding)
  have known : (run rebuilding (twin 64 64)).2.program? ⟨0, 1⟩ =
      some (⟨0, 1⟩, "\x7b\x7d", some [.ofText "program0" "\x7b\x7d" ⟨0, 1⟩,
        .ofText "program0" "\x7b\x7d" ⟨0, 1⟩]) := by
    decide +kernel
  have order : (run rebuilding (twin 64 64)).2.members? ⟨0, 1⟩ = some [⟨1, 1⟩, ⟨0, 1⟩] := by
    decide +kernel
  obtain ⟨program, live, face⟩ := Option.map_eq_some_iff.mp known
  obtain ⟨context, within, members⟩ := Option.map_eq_some_iff.mp order
  simp only [programFace, Prod.mk.injEq] at face
  obtain ⟨owner, source, -⟩ := face
  rw [← owner] at within
  have short : (Bytes.ofText program.source).length < UInt64.size := by
    rw [source]
    decide +kernel
  obtain ⟨devices, sizes, binaries, _, listed, sized, given, pieces⟩ :=
    asks ⟨0, 1⟩ program live short
  have same : devices = [⟨1, 1⟩, ⟨0, 1⟩] := by
    have twice := listed.symm.trans (step_programInfo live within).2.1
    simpa [members] using twice
  have spared : isBuiltFor (record rebuilding (twin 64 64)) ⟨0, 1⟩ ⟨1, 1⟩ = false := by
    decide +kernel
  have served : isBuiltFor (record rebuilding (twin 64 64)) ⟨0, 1⟩ ⟨0, 1⟩ = true := by
    decide +kernel
  refine ⟨(copies _ _ _).2.1 rfl, (copies _ _ _).2.2 nofun, sizes, binaries, sized, given, ?_⟩
  rw [pieces, source, same, List.map_cons, List.map_singleton, spared, served]
  decide +kernel

end ComputeHost.Host
