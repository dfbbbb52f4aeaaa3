/-
**What calls ask of devices.**

Whatever a call asks of devices is bracketed by selecting and unselecting, so every device is idle
after it if it was before. Most calls also leave the record of launches, the count of streams, the
queues and the arguments of kernels as they were (`Serves`), and so does every call that fails.

* `Service` — what a call does to devices, queues and arguments, by its result.
* `step_service` — every call does one of these things.
-/

import ComputeHost.Proofs.Host.Frame

namespace ComputeHost

/-- Whether the call leaves queues, arguments and launches as they are. -/
def Call.isPlain : Call → Bool
  | .createQueue .. | .createKernel .. | .setArgument .. | .enqueueKernel .. => false
  | _ => true

namespace Host

open ComputeHost.Action

variable {host before middle after : Host SimulatedDevice} {α β : Type}

/-- Devices were served; queues and arguments are as they were. -/
structure Serves (before after : Host SimulatedDevice) : Prop where
  each : Each SimulatedDevice.Served before after
  pending : ∀ device ∈ after.pending, ∃ one ∈ before.pending, one.Served device
  queues : after.registry.queues = before.registry.queues
  arguments : ∀ kernel, (after.registry.kernels.get? kernel).map Kernel.arguments =
    (before.registry.kernels.get? kernel).map Kernel.arguments
  executing : before.executing = false → after.executing = false

theorem Serves.refl (host : Host SimulatedDevice) : host.Serves host :=
  ⟨.refl SimulatedDevice.Served.refl host, fun device member => ⟨device, member, .refl device⟩, rfl,
    fun _ => rfl, id⟩

theorem Serves.trans (first : before.Serves middle) (second : middle.Serves after) :
    before.Serves after := by
  refine ⟨first.each.trans (fun _ _ _ => SimulatedDevice.Served.trans) second.each,
    fun device member => ?_, second.queues.trans first.queues,
    fun kernel => (second.arguments kernel).trans (first.arguments kernel),
    second.executing ∘ first.executing⟩
  obtain ⟨two, among, step'⟩ := second.pending device member
  obtain ⟨one, among, step⟩ := first.pending two among
  exact ⟨one, among, step.trans step'⟩

theorem Serves.of_across (across : Across SimulatedDevice.Served before after) :
    before.Serves after := by
  obtain ⟨devices, same⟩ := across.rest
  refine ⟨across.each, fun device member => ?_, ?_, fun kernel => ?_, fun idle => ?_⟩
  · rw [same] at member
    exact ⟨device, member, .refl device⟩
  · rw [same]
  · rw [same]
  · rw [same]
    exact idle

theorem Serves.setBackend {handle : DeviceHandle} {device changed : SimulatedDevice}
    (found : host.backend? handle = some device) (served : device.Served changed) :
    host.Serves (host.setBackend handle changed) :=
  .of_across (.setBackend SimulatedDevice.Served.refl found served)

/-- What most calls do serves the devices. -/
theorem framed_serves : Framed Serves where
  trans := Serves.trans
  across := .of_across
  apart := by
    intro before after apart
    have stands : ∀ handle, after.backend? handle = before.backend? handle := by
      intro handle
      rw [backend?, backend?, apart.devices]
    refine ⟨fun handle => ?_, fun device member => ?_, apart.queues, fun kernel => ?_, ?_⟩
    · rw [stands]
      exact Each.refl SimulatedDevice.Served.refl before handle
    · exact ⟨device, apart.pending ▸ member, .refl device⟩
    · rw [apart.kernels]
    · rw [apart.executing]
      exact id

/-! ### Contexts -/

theorem serves_changeContext (handle : ContextHandle) (change : Context → Context) :
    Within Serves (changeContext handle change : HostAction SimulatedDevice Unit) := by
  unfold changeContext
  rw [discard_check]
  exact framed_serves.seq (framed_serves.check _) fun _ host => { Serves.refl host with }

theorem serves_createContext (devices : List DeviceHandle) (notify : Bool) :
    Within Serves (createContext devices notify : HostAction SimulatedDevice ContextHandle) :=
  framed_serves.seq (framed_serves.check _) fun _ host => { Serves.refl host with }

/-! ### Making queues -/

/-- **Making a queue** serves the devices and fails, or makes a stream on the device of the queue.
-/
theorem createQueue_serves (context : ContextHandle) (device : DeviceHandle)
    (properties : QueueProperties) (host : Host SimulatedDevice) :
    (∃ error after, createQueue context device properties host = .error error after ∧
      host.Serves after) ∨
    ∃ one stream changed, host.backend? device = some one ∧ one.Streamed stream changed ∧
      createQueue context device properties host =
        .ok (host.registry.queues.insert { context, device, properties, stream }).1
          { host.setBackend device changed with
            registry := ((host.setBackend device changed).registry.addQueue
              { context, device, properties, stream }).2 } := by
  unfold createQueue
  cases passes : checkQueue context device properties host with
  | error error =>
    exact .inl ⟨error, host, bind_of_error (check_of_error passes), .refl host⟩
  | ok done =>
    rw [bind_of_ok (check_of_ok passes)]
    cases found : host.backend? device with
    | none => exact .inl ⟨_, host, bind_of_error (onDevice_of_none found), .refl host⟩
    | some one =>
      rcases SimulatedDevice.selected_createStream one with
        ⟨cause, changed, failed, served⟩ | ⟨stream, changed, made, streamed⟩
      · left
        exact ⟨_, _, bind_of_error (onDevice_of_error found failed), .setBackend found served⟩
      · right
        exact ⟨one, stream, changed, rfl, streamed, bind_of_ok (onDevice_of_ok found made)⟩

/-! ### Launching -/

/-- Sending a request replaces the device by what the launch made of it. -/
theorem execute_run {handle : DeviceHandle} {device : SimulatedDevice}
    (found : host.backend? handle = some device) (request : LaunchRequest) :
    ∃ recorders, execute handle request host = .ok (launchSelected request device).1.result
      { host.setBackend handle (launchSelected request device).2 with
        recorders, executing := false } := by
  obtain ⟨entry, live, rfl⟩ := checked_of_backend? found
  obtain ⟨recorders, told⟩ := tellAll_eq ({ host with executing := true }.setBackend handle
    (launchSelected request entry.backend).2) (launchSelected request entry.backend).1.signals
  refine ⟨recorders, ?_⟩
  unfold execute
  rw [live]
  simp only [told]
  rfl

theorem execute_of_none {handle : DeviceHandle} (absent : host.backend? handle = none)
    (request : LaunchRequest) :
    execute handle request host = .error (.invalidHandle .device) host := by
  have dead : host.registry.devices.get? handle = none := by
    unfold backend? at absent
    rwa [Option.map_eq_none_iff] at absent
  unfold execute Arena.checked
  rw [dead]

/-- A request is refused or fails and serves the devices, or the launch ran on its device. -/
theorem dispatch_serves (handle : DeviceHandle) (request : LaunchRequest)
    (host : Host SimulatedDevice) :
    (∃ error after, dispatch handle request host = .error error after ∧ host.Serves after) ∨
    ∃ one changed recorders, host.backend? handle = some one ∧
      one.Launched request.record changed ∧
      dispatch handle request host =
        .ok () { host.setBackend handle changed with recorders, executing := false } := by
  unfold dispatch
  cases found : host.backend? handle with
  | none =>
    exact .inl ⟨_, host, bind_of_error (execute_of_none found request), .refl host⟩
  | some one =>
    obtain ⟨recorders, ran⟩ := execute_run found request
    rw [bind_of_ok ran]
    rcases SimulatedDevice.launchSelected_run request one with
      ⟨result, launched⟩ | ⟨cause, result, served⟩
    · right
      rw [result]
      exact ⟨one, _, recorders, rfl, launched, rfl⟩
    · left
      have serves := Serves.setBackend found served
      rw [result]
      cases cause <;>
        exact ⟨_, _, rfl, { serves with executing := fun _ => rfl }⟩

/-- Noting a geometry serves the devices. -/
theorem serves_geometry (kernel : KernelHandle) (geometry : Geometry)
    (host : Host SimulatedDevice) :
    host.Serves (host.withChanged kernel fun entry =>
      { entry with geometry := some geometry }) := by
  refine { Serves.refl host with arguments := fun other => ?_ }
  unfold withChanged
  simp only [Arena.get?_modify]
  split
  · rename_i here
    rw [here, Option.map_map]
    rfl
  · rfl

/-- **A launch** fails and serves the devices, or it passes all checks and its request ran on the
device of the queue, with the collectors that were attached. -/
theorem enqueueKernel_serves (queue : QueueHandle) (kernel : KernelHandle) (range : LaunchRange)
    (waits : WaitList) (host : Host SimulatedDevice) :
    (∃ error after, enqueueKernel queue kernel range waits host = .error error after ∧
      host.Serves after) ∨
    ∃ line geometry request context middle one changed recorders,
      checkLaunch queue kernel range waits host = .ok (line, geometry) ∧
      launchRequest line kernel geometry (host.withChanged kernel fun entry =>
        { entry with geometry := some geometry }) = .ok request ∧
      host.registry.contexts.get? line.context = some context ∧
      host.Serves middle ∧ middle.backend? line.device = some one ∧
      one.Launched { request.record with collectors := context.launchCollectors.length } changed ∧
      enqueueKernel queue kernel range waits host =
        .ok () { middle.setBackend line.device changed with recorders, executing := false } := by
  rw [enqueueKernel_eq]
  rcases handOver_run queue kernel range waits host with
    ⟨error, after, refused, -, rfl | ⟨geometry, rfl⟩⟩ |
      ⟨line, geometry, request, entry, ready, hands⟩
  · exact .inl ⟨error, _, bind_of_error refused, .refl _⟩
  · exact .inl ⟨error, _, bind_of_error refused, serves_geometry kernel geometry host⟩
  · rw [bind_of_ok hands]
    have serves : host.Serves (host.handedOver kernel geometry line.context) :=
      { serves_geometry kernel geometry host with }
    rcases dispatch_serves line.device { request with collectors := entry.launchCollectors }
        (host.handedOver kernel geometry line.context) with
      ⟨error, after, failed, served⟩ | ⟨one, changed, recorders, live, launched, ran⟩
    · exact .inl ⟨error, after, failed, serves.trans served⟩
    · exact .inr ⟨line, geometry, request, entry, _, one, changed, recorders, ready.passes,
        ready.asked, ready.there, serves, live, launched, ran⟩

/-! ### Every call is one of these -/

/-- What a call does to devices, queues and arguments, by its result. -/
inductive Service (before : Host SimulatedDevice) :
    Call → Except HostError Answer → Host SimulatedDevice → Prop
  | served {call : Call} {result : Except HostError Answer} {after : Host SimulatedDevice}
      (plain : call.isPlain = true) (serves : before.Serves after) :
      Service before call result after
  | failed {call : Call} {error : HostError} {after : Host SimulatedDevice}
      (serves : before.Serves after) : Service before call (.error error) after
  | listed {result : Except HostError Answer} (unlisted : before.isEnumerated = false) :
      Service before .platformIds result before.enumerate
  | queueMade {context : ContextHandle} {device : DeviceHandle} {properties : QueueProperties}
      {one changed : SimulatedDevice} {stream : StreamId}
      (found : before.backend? device = some one)
      (streamed : one.Streamed stream changed) :
      Service before (.createQueue context device properties)
        (.ok (.handle
          (before.registry.queues.insert { context, device, properties, stream }).1))
        { before.setBackend device changed with
          registry := ((before.setBackend device changed).registry.addQueue
            { context, device, properties, stream }).2 }
  | kernelMade {program : ProgramHandle} {name : String} {kernel : Kernel}
      (passes : checkKernel program name before = .ok kernel) :
      Service before (.createKernel program name)
        (.ok (.handle (before.registry.kernels.insert kernel).1))
        { before with registry := (before.registry.addKernel kernel).2 }
  | argumentSet {kernel : KernelHandle} {index : Nat} {value : Bytes}
      (passes : checkArgument kernel index value before = .ok ()) :
      Service before (.setArgument kernel index value) (.ok .nothing)
        (before.withChanged kernel fun entry =>
          { entry with arguments := entry.arguments.set index (some value) })
  | launched {queue : QueueHandle} {kernel : KernelHandle} {range : LaunchRange}
      {waits : WaitList} {line : Queue} {geometry : Geometry} {request : LaunchRequest}
      {context : Context} {middle : Host SimulatedDevice} {one changed : SimulatedDevice}
      {recorders : List (CollectorId × Recorder)}
      (passes : checkLaunch queue kernel range waits before = .ok (line, geometry))
      (asked : launchRequest line kernel geometry (before.withChanged kernel fun entry =>
        { entry with geometry := some geometry }) = .ok request)
      (there : before.registry.contexts.get? line.context = some context)
      (serves : before.Serves middle) (found : middle.backend? line.device = some one)
      (ran : one.Launched
        { request.record with collectors := context.launchCollectors.length } changed) :
      Service before (.enqueueKernel queue kernel range waits) (.ok .nothing)
        { middle.setBackend line.device changed with recorders, executing := false }

/-- A call that serves the devices, however it ends. -/
theorem Service.of_within {call : Call} (plain : call.isPlain = true)
    (within : Within Serves (perform call)) :
    Service before call (step call before).1 (step call before).2 := by
  have serves := within before
  cases outcome : perform call before with
  | ok answer after =>
    rw [outcome] at serves
    rw [step_of_ok outcome]
    exact .served plain serves
  | error error after =>
    rw [outcome] at serves
    rw [step_of_error outcome]
    exact .served plain serves

/-- **Every call does one of the things listed.** -/
theorem step_service (before : Host SimulatedDevice) (call : Call) :
    Service before call (step call before).1 (step call before).2 := by
  cases call with
  | platformIds =>
    rw [step_platformIds]
    split
    · exact .served rfl (.refl before)
    · rename_i unlisted
      exact .listed (Bool.of_not_eq_true unlisted)
  | createContext devices notify => exact .of_within rfl (serves_createContext _ _).map
  | addCollector context collector persistence =>
    exact .of_within rfl (within_quietly (serves_changeContext _ _))
  | clearCollectors context => exact .of_within rfl (within_quietly (serves_changeContext _ _))
  | createQueue context device properties =>
    rcases createQueue_serves context device properties before with
      ⟨error, after, failed, serves⟩ | ⟨one, stream, changed, found, streamed, made⟩
    · rw [step_of_error (map_of_error failed)]
      exact .failed serves
    · rw [step_of_ok (map_of_ok made)]
      exact .queueMade found streamed
  | createKernel program name =>
    cases passes : checkKernel program name before with
    | error error =>
      have failed : createKernel program name before = .error error before :=
        bind_of_error (check_of_error passes)
      rw [step_of_error (map_of_error failed)]
      exact .failed (.refl before)
    | ok kernel =>
      have made : createKernel program name before = .ok (before.registry.kernels.insert kernel).1
          { before with registry := (before.registry.addKernel kernel).2 } :=
        bind_of_ok (check_of_ok passes)
      rw [step_of_ok (map_of_ok made)]
      exact .kernelMade passes
  | setArgument kernel index value =>
    cases passes : checkArgument kernel index value before with
    | error error =>
      have failed : setArgument kernel index value before = .error error before :=
        bind_of_error (check_of_error passes)
      rw [step_of_error (bind_of_error failed)]
      exact .failed (.refl before)
    | ok done =>
      have made : setArgument kernel index value before = .ok () (before.withChanged kernel
          fun entry => { entry with arguments := entry.arguments.set index (some value) }) :=
        bind_of_ok (check_of_ok passes)
      rw [step_of_ok (bind_of_ok made)]
      exact .argumentSet passes
  | enqueueKernel queue kernel range waits =>
    rcases enqueueKernel_serves queue kernel range waits before with
      ⟨error, after, failed, serves⟩ |
        ⟨line, geometry, request, context, middle, one, changed, recorders, passes, asked, there,
          serves, found, launched, ran⟩
    · rw [step_of_error (bind_of_error failed)]
      exact .failed serves
    · rw [step_of_ok (bind_of_ok ran)]
      exact .launched passes asked there serves found launched
  | _ => exact .of_within rfl (framed_serves.perform rfl)

/-- Turning a switch of a device serves the devices. -/
theorem serves_turn (host : Host SimulatedDevice) (position : Nat)
    (switch : SimulatedDevice.Switch) :
    host.Serves (host.adjust position fun device => device.turn switch) := by
  rcases adjust_run SimulatedDevice.Served.refl host position
    (fun device => device.served_turn switch) with across | ⟨pending, same, origin⟩
  · exact .of_across across
  · rw [same]
    exact { Serves.refl host with pending := origin }

end Host

end ComputeHost
