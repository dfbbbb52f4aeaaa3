/-
**What a call does to a host.**

`Transition` lists what a call can do: nothing that another call depends on, one more object,
another content of one buffer, another table of modules, data on another device. Everything that is
kept by each of these is kept by every call (`step_transition`).
-/

import ComputeHost.Proofs.Host.Building
import ComputeHost.Proofs.Host.Making
import ComputeHost.Proofs.Host.Migrating
import ComputeHost.Proofs.Host.Transfers

namespace ComputeHost

/-- Whether no other call depends on what the call leaves behind. -/
def Call.isQuiet : Call → Bool
  | .createContext .. | .createQueue .. | .createProgram .. | .buildProgram .. | .createKernel ..
  | .createBuffer .. | .writeBuffer .. | .registerModule .. | .unregisterModule ..
  | .migrateDevice .. => false
  | _ => true

namespace Host

open ComputeHost.Action

variable {host before after : Host SimulatedDevice} {call : Call}

/-- What a call does to a host, by its result. -/
inductive Transition (before : Host SimulatedDevice) :
    Call → Except HostError Answer → Host SimulatedDevice → Prop
  | quiet {call : Call} {result : Except HostError Answer} {after : Host SimulatedDevice}
      (quiet : call.isQuiet = true) (calm : before.Calm after) : Transition before call result after
  | failed {call : Call} {error : HostError} {after : Host SimulatedDevice}
      (calm : before.Calm after) : Transition before call (.error error) after
  | listed {result : Except HostError Answer} (unlisted : before.isEnumerated = false) :
      Transition before .platformIds result before.enumerate
  | contextMade {devices : List DeviceHandle} {notify : Bool} (nonempty : devices ≠ [])
      (nodup : devices.Nodup) (live : ∀ device ∈ devices, (before.backend? device).isSome) :
      Transition before (.createContext devices notify)
        (.ok (.handle (before.registry.contexts.insert { devices }).1))
        (before.withContext { devices })
  | queueMade {context : ContextHandle} {device : DeviceHandle} {properties : QueueProperties}
      {entry : Context} {stream : StreamId} {middle after : Host SimulatedDevice}
      (there : before.registry.contexts.get? context = some entry)
      (member : device ∈ entry.devices) (calm : before.Calm middle)
      (settled : (middle.withQueue { context, device, properties, stream }).Calm after) :
      Transition before (.createQueue context device properties)
        (.ok (.handle
          (before.registry.queues.insert { context, device, properties, stream }).1)) after
  | programMade {context : ContextHandle} {sources : List String} {after : Host SimulatedDevice}
      (settled : (before.withProgram { context, source := String.join sources }).Calm after) :
      Transition before (.createProgram context sources)
        (.ok (.handle
          (before.registry.programs.insert { context, source := String.join sources }).1)) after
  | kernelMade {program : ProgramHandle} {name : String} {kernel : Kernel}
      {after : Host SimulatedDevice} (passes : checkKernel program name before = .ok kernel)
      (settled : (before.withKernel kernel).Calm after) :
      Transition before (.createKernel program name)
        (.ok (.handle (before.registry.kernels.insert kernel).1)) after
  | bufferMade {context : ContextHandle} {request : BufferRequest} {entry : Context}
      {places : List (DeviceHandle × Address)} {middle after : Host SimulatedDevice}
      (there : before.registry.contexts.get? context = some entry) (size : request.size ≠ 0)
      (whole : request.contents.length = request.size)
      (devices : places.map Prod.fst = entry.devices)
      (across : Across SimulatedDevice.Steady before middle)
      (fresh : ∀ place ∈ places, before.content? place.1 place.2 = none)
      (view : ∀ handle address, middle.content? handle address =
        if (handle, address) ∈ places then some ⟨request.residency, request.contents⟩
        else before.content? handle address)
      (settled : (middle.withBuffer
        { context, size := request.size, flags := request.flags, places }).Calm after) :
      Transition before (.createBuffer context request)
        (.ok (.handle (before.registry.buffers.insert
          { context, size := request.size, flags := request.flags, places }).1)) after
  | written {transfer : Transfer} {data : Bytes} {queue : Queue} {buffer : Buffer}
      {address : Address} {content : Content} {after : Host SimulatedDevice}
      (accepts : before.Accepts transfer data.length queue buffer)
      (place : buffer.addressOn? queue.device = some address)
      (covers : before.Covers queue.device address transfer data.length content)
      (across : Across SimulatedDevice.Steady before after)
      (view : ∀ handle place, after.content? handle place =
        if (handle, place) = (queue.device, address) then
          some ⟨content.residency, content.bytes.splice transfer.offset data⟩
        else before.content? handle place) :
      Transition before (.writeBuffer transfer data) (.ok .nothing) after
  | registered {name source : String} {module : KernelModule}
      (new : before.modules.find? name = none)
      (read : KernelModule.parse name source = .ok module) :
      Transition before (.registerModule name source) (.ok .nothing) (before.enrolled module)
  | unregistered {name : String} {entry : ModuleEntry} {middle : Host SimulatedDevice}
      (found : before.modules.find? name = some entry) (stripped : before.Stripped name middle) :
      Transition before (.unregisterModule name) (.ok .nothing)
        { middle with modules := before.modules.remove name }
  | rebuilt {program : ProgramHandle} {devices : Option (List DeviceHandle)}
      {options : Option String} {notify : Bool} {entry : Program}
      (there : before.registry.programs.get? program = some entry)
      (done : entry.builds.isSome = true) :
      Transition before (.buildProgram program devices options notify) (.ok .nothing) before
  | built {program : ProgramHandle} {devices : Option (List DeviceHandle)}
      {options : Option String} {notify : Bool} {entry : Program} {targets : List DeviceHandle}
      {module : KernelModule} {middle : Host SimulatedDevice}
      (there : before.registry.programs.get? program = some entry) (unbuilt : entry.builds = none)
      (nonempty : targets ≠ [])
      (new : before.modules.find? (buildName before.nextBuild) = none)
      (read : KernelModule.parse (buildName before.nextBuild) entry.source = .ok module)
      (relinked : Relinked (buildName before.nextBuild) before middle) (linked : middle.Linked)
      (grown : Grows (buildName before.nextBuild) ⟨module, targets⟩ middle) :
      Transition before (.buildProgram program devices options notify) (.ok .nothing)
        (middle.built program
          (targets.map (Build.ofText (buildName before.nextBuild) entry.source)))
  | idle {source target : DeviceHandle} (unlisted : before.isEnumerated = false) :
      Transition before (.migrateDevice source target) (.ok (.moved [])) before
  | stranded {source target : DeviceHandle} {cause : DeviceError} {lost : List Address}
      {after : Host SimulatedDevice} (differ : source ≠ target)
      (strands : Strands before source lost after) :
      Transition before (.migrateDevice source target) (.error (.device cause)) after
  | migrated {source target : DeviceHandle} {moved : AddressMap} {middle : Host SimulatedDevice}
      (differ : source ≠ target) (done : Migrated before source target moved middle) :
      Transition before (.migrateDevice source target) (.ok (.moved moved))
        (middle.repointed source target moved)

/-! ### Every call is one of these -/

theorem step_of_ok {answer : Answer} (done : perform call host = .ok answer after) :
    step call host = (.ok answer, after) := by
  unfold step
  rw [done]

theorem step_of_error {error : HostError} (failed : perform call host = .error error after) :
    step call host = (.error error, after) := by
  unfold step
  rw [failed]

/-- A call that leaves every host calm. -/
theorem Transition.of_within (quiet : call.isQuiet = true) (within : Within Calm (perform call)) :
    Transition before call (step call before).1 (step call before).2 := by
  have calm := within before
  cases outcome : perform call before with
  | ok answer after =>
    rw [outcome] at calm
    rw [step_of_ok outcome]
    exact .quiet quiet calm
  | error error after =>
    rw [outcome] at calm
    rw [step_of_error outcome]
    exact .quiet quiet calm

/-- Giving nothing does not change the host. -/
theorem final_quietly (action : HostAction SimulatedDevice Unit) (host : Host SimulatedDevice) :
    final (quietly action host) = final (action host) := by
  unfold quietly
  cases outcome : action host with
  | ok _ after =>
    rw [bind_of_ok outcome]
    rfl
  | error error after => rw [bind_of_error outcome, final, final]

theorem within_quietly {relation : Host SimulatedDevice → Host SimulatedDevice → Prop}
    {action : HostAction SimulatedDevice Unit} (within : Within relation action) :
    Within relation (quietly action) := by
  intro host
  rw [final_quietly]
  exact within host

theorem step_platformIds (host : Host SimulatedDevice) :
    (step .platformIds host).2 = if host.isEnumerated = true then host else host.enumerate := rfl

/-- A read is calm, whether it is refused, fails or gives something. -/
theorem readBuffer_calm (transfer : Transfer) (length : Nat) :
    Within Calm (readBuffer transfer length : HostAction SimulatedDevice Bytes) := by
  intro host
  cases passes : transferTarget transfer length host with
  | error error =>
    have failed : readBuffer transfer length host = .error error host :=
      bind_of_error (check_of_error passes)
    rw [failed]
    exact .refl host
  | ok found =>
    obtain ⟨device, address⟩ := found
    obtain ⟨after, calm, ⟨content, _, done⟩ | ⟨_, cause, failed⟩⟩ := readBuffer_run passes
    · rw [done]
      exact calm
    · rw [failed]
      exact calm

/-- A new buffer, or nothing that another call depends on. -/
theorem transition_createBuffer (regular : before.Regular) (context : ContextHandle)
    (request : BufferRequest) :
    Transition before (.createBuffer context request)
      (step (.createBuffer context request) before).1
      (step (.createBuffer context request) before).2 := by
  rcases createBuffer_run regular context request with
    ⟨error, after, failed, across, view⟩ |
      ⟨entry, initial, places, middle, there, passes, devices, across, fresh, view, done⟩
  · rw [step_of_error (map_of_error failed)]
    exact .failed (.of_across (across.alike fun handle address =>
      data?_eq_of_content?_eq (view handle address)))
  · have made : createBuffer context request before = .ok (middle.registry.buffers.insert
        { context, size := request.size, flags := request.flags, places }).1
        { middle with
          registry := (middle.registry.addBuffer
            { context, size := request.size, flags := request.flags, places }).2 } := done
    rw [across.buffers] at made
    rw [step_of_ok (map_of_ok made)]
    exact .bufferMade there (BufferRequest.check_eq_ok passes).1
      (BufferRequest.length_contents passes) devices across fresh view (calm_addBuffer middle _)

/-- Other bytes in a buffer, or nothing that another call depends on. -/
theorem transition_writeBuffer (before : Host SimulatedDevice) (transfer : Transfer)
    (data : Bytes) :
    Transition before (.writeBuffer transfer data) (step (.writeBuffer transfer data) before).1
      (step (.writeBuffer transfer data) before).2 := by
  cases passes : transferTarget transfer data.length before with
  | error error =>
    have failed : writeBuffer transfer data before = .error error before :=
      bind_of_error (check_of_error passes)
    rw [step_of_error (bind_of_error failed)]
    exact .failed (.refl before)
  | ok found =>
    obtain ⟨device, address⟩ := found
    rcases writeBuffer_run passes with
      ⟨content, after, covers, done, across, view⟩ | ⟨_, cause, after, failed, calm⟩
    · obtain ⟨queue, buffer, accepts, _, rfl, place⟩ := transferTarget_eq_ok_iff.mp passes
      rw [step_of_ok (bind_of_ok done)]
      exact .written accepts place covers across view
    · rw [step_of_error (bind_of_error failed)]
      exact .failed calm

/-- **Every call of a host in good order does one of the things listed.** -/
theorem step_transition (regular : before.Regular) (call : Call) :
    Transition before call (step call before).1 (step call before).2 := by
  cases call with
  | platformIds =>
    rw [step_platformIds]
    by_cases listed : before.isEnumerated = true
    · rw [if_pos listed]
      exact .quiet rfl (.refl before)
    · rw [if_neg listed]
      exact .listed (Bool.of_not_eq_true listed)
  | platformInfo platform query => exact .of_within rfl (within_check _).map
  | deviceIds platform mask => exact .of_within rfl (within_check _).map
  | deviceInfo device query => exact .of_within rfl (within_check _).map
  | createContext devices notify =>
    rcases createContext_run before devices notify with
      ⟨error, failed⟩ | ⟨nonempty, nodup, live, done⟩
    · rw [step_of_error (map_of_error failed)]
      exact .failed (.refl before)
    · rw [step_of_ok (map_of_ok done)]
      exact .contextMade nonempty nodup live
  | contextInfo context query => exact .of_within rfl (within_check _).map
  | addCollector context collector persistence =>
    refine .of_within rfl (within_quietly (changeContext_calm context fun entry => ?_))
    cases persistence <;> rfl
  | clearCollectors context =>
    exact .of_within rfl (within_quietly (changeContext_calm context fun _ => rfl))
  | createQueue context device properties =>
    rcases createQueue_run before context device properties with
      ⟨error, after, failed, calm⟩ |
        ⟨entry, stream, middle, after, there, member, calm, settled, done⟩
    · rw [step_of_error (map_of_error failed)]
      exact .failed calm
    · rw [calm.queues] at done
      rw [step_of_ok (map_of_ok done)]
      exact .queueMade there member calm settled
  | queueInfo queue query => exact .of_within rfl (within_check _).map
  | finish queue => exact .of_within rfl (within_quietly (within_check _))
  | flush queue => exact .of_within rfl (within_quietly (within_check _))
  | createProgram context sources =>
    rcases createProgram_run before context sources with ⟨error, failed⟩ | ⟨after, settled, done⟩
    · rw [step_of_error (map_of_error failed)]
      exact .failed (.refl before)
    · rw [step_of_ok (map_of_ok done)]
      exact .programMade settled
  | buildProgram program devices options notify =>
    rcases buildProgram_run regular program devices options notify with
      ⟨error, after, failed, calm⟩ | ⟨entry, targets, there, ⟨some_builds, done⟩ |
        ⟨unbuilt, nonempty, new, module, middle, read, relinked, linked, grown, done⟩⟩
    · rw [step_of_error (bind_of_error failed)]
      exact .failed calm
    · rw [step_of_ok (bind_of_ok done)]
      exact .rebuilt there some_builds
    · rw [step_of_ok (bind_of_ok done)]
      exact .built there unbuilt nonempty new read relinked linked grown
  | programInfo program query => exact .of_within rfl (within_check _).map
  | createKernel program name =>
    rcases createKernel_run before program name with
      ⟨error, failed⟩ | ⟨kernel, after, passes, settled, done⟩
    · rw [step_of_error (map_of_error failed)]
      exact .failed (.refl before)
    · rw [step_of_ok (map_of_ok done)]
      exact .kernelMade passes settled
  | setArgument kernel index value =>
    exact .of_within rfl (within_quietly (setArgument_calm kernel index value))
  | kernelInfo kernel query => exact .of_within rfl (within_check _).map
  | createBuffer context request => exact transition_createBuffer regular context request
  | bufferInfo buffer query => exact .of_within rfl (within_check _).map
  | writeBuffer transfer data => exact transition_writeBuffer before transfer data
  | readBuffer transfer length => exact .of_within rfl (readBuffer_calm transfer length).map
  | enqueueKernel queue kernel range waits =>
    exact .of_within rfl (within_quietly (enqueueKernel_calm queue kernel range waits))
  | registerModule name source =>
    rcases registerModule_run before name source with ⟨error, failed⟩ | ⟨module, new, read, done⟩
    · rw [step_of_error (bind_of_error failed)]
      exact .failed (.refl before)
    · rw [step_of_ok (bind_of_ok done)]
      exact .registered new read
  | unregisterModule name =>
    cases found : before.modules.find? name with
    | none =>
      have failed : unregisterModule name before = .error (.moduleNotFound name) before :=
        unregisterModule_of_unknown found
      rw [step_of_error (bind_of_error failed)]
      exact .failed (.refl before)
    | some entry =>
      obtain ⟨middle, stripped, done⟩ :=
        unregisterModule_run regular.packed.devices regular.sound found
      rw [step_of_ok (bind_of_ok done)]
      exact .unregistered found stripped
  | setOptimization level => exact .of_within rfl (within_quietly (setOptimization_calm level))
  | migrateDevice source target =>
    rcases migrateDevice_run regular source target with
      ⟨unlisted, done⟩ | ⟨error, after, failed, calm, _, _⟩ |
        ⟨requested, available, after, failed, differ, strands⟩ | ⟨moved, middle, differ, ran, done⟩
    · rw [step_of_ok (map_of_ok done)]
      exact .idle unlisted
    · rw [step_of_error (map_of_error failed)]
      exact .failed calm
    · rw [step_of_error (map_of_error failed)]
      exact .stranded differ strands
    · rw [step_of_ok (map_of_ok done)]
      exact .migrated differ ran
  | isExecuting => exact .quiet rfl (.refl before)

/-! ### What transfers answer -/

section

variable {transfer : Transfer} {length : Nat} {data : Bytes} {device : DeviceHandle}
  {address : Address} {content : Content} {error : HostError}

theorem readBuffer_of_refused (refused : transferTarget transfer length host = .error error) :
    (step (.readBuffer transfer length) host).1 = .error error := by
  have failed : readBuffer transfer length host = .error error host :=
    bind_of_error (check_of_error refused)
  exact congrArg Prod.fst (step_of_error (map_of_error failed))

theorem readBuffer_of_covers
    (target : transferTarget transfer length host = .ok (device, address))
    (covers : host.Covers device address transfer length content) :
    (step (.readBuffer transfer length) host).1 =
      .ok (.bytes (content.bytes.slice transfer.offset length)) := by
  obtain ⟨after, _, ⟨held, covers', done⟩ | ⟨uncovered, _⟩⟩ := readBuffer_run target
  · obtain rfl := Option.some.inj (covers.1.symm.trans covers'.1)
    exact congrArg Prod.fst (step_of_ok (map_of_ok done))
  · exact absurd covers (uncovered content)

theorem readBuffer_of_uncovered
    (target : transferTarget transfer length host = .ok (device, address))
    (uncovered : ∀ content, ¬ host.Covers device address transfer length content) :
    ∃ cause, (step (.readBuffer transfer length) host).1 = .error cause := by
  obtain ⟨after, _, ⟨held, covers, _⟩ | ⟨_, cause, failed⟩⟩ := readBuffer_run target
  · exact absurd covers (uncovered held)
  · exact ⟨_, congrArg Prod.fst (step_of_error (map_of_error failed))⟩

/-- A read that succeeds has a target that holds its range, and gives that. -/
theorem readBuffer_eq_ok {answer : Answer}
    (done : (step (.readBuffer transfer length) host).1 = .ok answer) :
    ∃ device address content, transferTarget transfer length host = .ok (device, address) ∧
      host.Covers device address transfer length content ∧
      answer = .bytes (content.bytes.slice transfer.offset length) := by
  cases passes : transferTarget transfer length host with
  | error error =>
    rw [readBuffer_of_refused passes] at done
    cases done
  | ok found =>
    obtain ⟨device, address⟩ := found
    by_cases covered : ∃ content, host.Covers device address transfer length content
    · obtain ⟨content, covers⟩ := covered
      rw [readBuffer_of_covers passes covers] at done
      cases done
      exact ⟨device, address, content, rfl, covers, rfl⟩
    · obtain ⟨cause, failed⟩ := readBuffer_of_uncovered passes (not_exists.mp covered)
      rw [failed] at done
      cases done

theorem writeBuffer_of_refused
    (refused : transferTarget transfer data.length host = .error error) :
    (step (.writeBuffer transfer data) host).1 = .error error := by
  have failed : writeBuffer transfer data host = .error error host :=
    bind_of_error (check_of_error refused)
  exact congrArg Prod.fst (step_of_error (bind_of_error failed))

theorem writeBuffer_of_covers
    (target : transferTarget transfer data.length host = .ok (device, address))
    (covers : host.Covers device address transfer data.length content) :
    (step (.writeBuffer transfer data) host).1 = .ok .nothing := by
  rcases writeBuffer_run target with ⟨_, after, _, done, _⟩ | ⟨uncovered, _⟩
  · exact congrArg Prod.fst (step_of_ok (bind_of_ok done))
  · exact absurd covers (uncovered content)

theorem writeBuffer_of_uncovered
    (target : transferTarget transfer data.length host = .ok (device, address))
    (uncovered : ∀ content, ¬ host.Covers device address transfer data.length content) :
    ∃ cause, (step (.writeBuffer transfer data) host).1 = .error cause := by
  rcases writeBuffer_run target with ⟨content, _, covers, _⟩ | ⟨_, cause, after, failed, _⟩
  · exact absurd covers (uncovered content)
  · exact ⟨_, congrArg Prod.fst (step_of_error (bind_of_error failed))⟩

/-- A write that succeeds has a target that holds its range. -/
theorem writeBuffer_eq_ok {answer : Answer}
    (done : (step (.writeBuffer transfer data) host).1 = .ok answer) :
    ∃ device address content, transferTarget transfer data.length host = .ok (device, address) ∧
      host.Covers device address transfer data.length content := by
  cases passes : transferTarget transfer data.length host with
  | error error =>
    rw [writeBuffer_of_refused passes] at done
    cases done
  | ok found =>
    obtain ⟨device, address⟩ := found
    by_cases covered : ∃ content, host.Covers device address transfer data.length content
    · obtain ⟨content, covers⟩ := covered
      exact ⟨device, address, content, rfl, covers⟩
    · obtain ⟨cause, failed⟩ := writeBuffer_of_uncovered passes (not_exists.mp covered)
      rw [failed] at done
      cases done

end

end Host

end ComputeHost
