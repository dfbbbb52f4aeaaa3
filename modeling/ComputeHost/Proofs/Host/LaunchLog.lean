/-
**The launch log of a device.**

A device keeps a record of every launch that ran on it. After every course these are, in order, the
launches that succeeded on the queues of the device, each with its module, kernel, stream, sizes,
parameters and number of collectors (`Logs`). A launch that fails leaves no record anywhere.

* `Streams` — every queue has a stream of its own on its device.
* `logs_of_launched` — what the record of one launch says.
* `Course.launches_logged` — the logs of all devices after every course.
-/

import ComputeHost.Proofs.Host.Course
import ComputeHost.Proofs.Host.Geometry

namespace ComputeHost.Host

open ComputeHost.Action

variable {host before after : Host SimulatedDevice} {stages : List Stage}
  {handle : DeviceHandle}

/-! ### Streams -/

/-- Every queue has a stream of its device, and shares it with no other queue of the device. -/
structure Streams (host : Host SimulatedDevice) : Prop where
  made : ∀ queue line, host.registry.queues.get? queue = some line →
    ∃ device, host.backend? line.device = some device ∧ line.stream.value ≤ device.probe.streams
  apart : ∀ one other first second, host.registry.queues.get? one = some first →
    host.registry.queues.get? other = some second →
    first.device = second.device → first.stream = second.stream → one = other

/-- Queues are as they were, and every device has as many streams as before. -/
theorem Streams.kept (streams : before.Streams)
    (queues : after.registry.queues = before.registry.queues)
    (devices : ∀ handle device, before.backend? handle = some device →
      ∃ later, after.backend? handle = some later ∧
        later.probe.streams = device.probe.streams) : after.Streams := by
  refine ⟨fun queue line found => ?_, ?_⟩
  · rw [queues] at found
    obtain ⟨device, there, bound⟩ := streams.made queue line found
    obtain ⟨later, stands, same⟩ := devices line.device device there
    exact ⟨later, stands, same ▸ bound⟩
  · rw [queues]
    exact streams.apart

theorem Streams.serves (streams : before.Streams) (serves : before.Serves after) :
    after.Streams := by
  refine streams.kept serves.queues fun handle device found => ?_
  rcases serves.each handle with ⟨absent, _⟩ | ⟨one, other, here, there, served⟩
  · rw [found] at absent
    cases absent
  · obtain rfl := Option.some.inj (found.symm.trans here)
    exact ⟨other, there, served.streams⟩

theorem backend?_setBackend_of_some {handle place : DeviceHandle}
    {one changed device : SimulatedDevice}
    (found : host.backend? handle = some one) (there : host.backend? place = some device) :
    (host.setBackend handle changed).backend? place =
      some (if place = handle then changed else device) := by
  rw [backend?_setBackend, found, there]
  split <;> rfl

/-- A new queue has a stream that none had before. -/
theorem Streams.queueMade (streams : before.Streams) (packed : before.registry.queues.Packed)
    {context : ContextHandle} {device : DeviceHandle} {properties : QueueProperties}
    {one changed : SimulatedDevice} {stream : StreamId}
    (found : before.backend? device = some one) (streamed : one.Streamed stream changed) :
    Streams { before.setBackend device changed with
      registry := ((before.setBackend device changed).registry.addQueue
        { context, device, properties, stream }).2 } := by
  have view : ∀ queue,
      (before.registry.queues.insert { context, device, properties, stream }).2.get? queue = _ :=
    fun queue => packed.get?_insert _ queue
  -- a queue of the device that was there has an earlier stream
  have earlier : ∀ queue line, before.registry.queues.get? queue = some line →
      line.device = device → line.stream ≠ stream := by
    intro queue line there on same
    obtain ⟨entry, live, bound⟩ := streams.made queue line there
    rw [on, found] at live
    cases live
    have next := streamed.stream
    rw [same] at bound
    omega
  refine ⟨fun queue line there => ?_, fun first second line other there there' on same => ?_⟩
  · have there : (before.registry.queues.insert { context, device, properties, stream }).2.get?
        queue = some line := there
    rw [view, Option.or_eq_some_iff] at there
    rcases there with old | ⟨_, new⟩
    · obtain ⟨entry, live, bound⟩ := streams.made queue line old
      refine ⟨_, backend?_setBackend_of_some found live, ?_⟩
      split
      · rename_i here
        rw [here, found] at live
        cases live
        have next := streamed.streams
        omega
      · exact bound
    · split at new
      · cases new
        refine ⟨_, backend?_setBackend_of_some found found, ?_⟩
        rw [if_pos rfl, streamed.streams]
        exact Nat.le_of_eq streamed.stream
      · cases new
  · have there : (before.registry.queues.insert { context, device, properties, stream }).2.get?
        first = some line := there
    have there' : (before.registry.queues.insert { context, device, properties, stream }).2.get?
        second = some other := there'
    rw [view, Option.or_eq_some_iff] at there there'
    rcases there with old | ⟨_, new⟩
    · rcases there' with old' | ⟨_, new'⟩
      · exact streams.apart first second line other old old' on same
      · split at new'
        · cases new'
          exact absurd same (earlier first line old on)
        · cases new'
    · split at new
      · rename_i here
        cases new
        rcases there' with old' | ⟨_, new'⟩
        · exact absurd same.symm (earlier second other old' on.symm)
        · split at new'
          · rename_i here'
            exact here.trans here'.symm
          · cases new'
      · cases new

theorem Service.streams {call : Call} {result : Except HostError Answer}
    (service : Service before call result after) (regular : before.Regular)
    (streams : before.Streams) : after.Streams := by
  cases service with
  | served _ serves => exact streams.serves serves
  | failed serves => exact streams.serves serves
  | listed unlisted =>
    refine streams.kept rfl fun handle device found => ?_
    rw [regular.unlisted unlisted handle] at found
    cases found
  | queueMade found streamed => exact streams.queueMade regular.packed.queues found streamed
  | kernelMade _ => exact streams.kept rfl fun _ device found => ⟨device, found, rfl⟩
  | argumentSet _ => exact streams.kept rfl fun _ device found => ⟨device, found, rfl⟩
  | @launched _ _ _ _ line _ _ _ middle one changed _ _ _ _ serves live ran =>
    refine (streams.serves serves).kept rfl fun place device found => ?_
    refine ⟨_, backend?_setBackend_of_some live found, ?_⟩
    split
    · rename_i here
      rw [here, live] at found
      cases found
      exact ran.streams
    · rfl

theorem Course.streams (course : Course stages host) : host.Streams := by
  induction course with
  | start settings devices =>
    exact ⟨fun _ _ found => absurd found.symm (Option.some_ne_none _),
      fun _ _ _ _ found => absurd found.symm (Option.some_ne_none _)⟩
  | call course call streams => exact (step_service _ call).streams course.run.regular streams
  | turn _ position switch streams => exact streams.serves (serves_turn _ position switch)

/-! ### The record of a launch -/

/-- A launch that succeeded, with the host it was asked of and what had been asked before. -/
structure Enqueued where
  host : Host SimulatedDevice
  earlier : List Exchange
  queue : QueueHandle
  kernel : KernelHandle
  range : LaunchRange

/-- The launch that a stage made on a device, if it made one. -/
def enqueued? (handle : DeviceHandle) (stage : Stage) (earlier : List Exchange) :
    Option Enqueued :=
  match stage.exchange with
  | ⟨.enqueueKernel queue kernel range _, .ok _⟩ =>
    if (stage.host.registry.queues.get? queue).map Queue.device = some handle then
      some ⟨stage.host, earlier, queue, kernel, range⟩
    else none
  | _ => none

/-- The launches that succeeded on the queues of a device, in order. -/
def enqueuedOn (handle : DeviceHandle) : List Stage → List Enqueued
  | [] => []
  | stage :: stages =>
    enqueuedOn handle stages ++
      (enqueued? handle stage (stages.map Stage.exchange)).toList

/-- The kernel with the arguments that the history says were last set. -/
def withLastSet (history : List Exchange) (handle : KernelHandle) (kernel : Kernel) : Kernel :=
  { kernel with
    arguments := (List.range kernel.arguments.length).map fun index =>
      lastSet handle index history }

/-- What the record of a launch on a device says. -/
structure Logs (handle : DeviceHandle) (launch : Enqueued) (record : LaunchRecord) : Prop where
  /-- It is on the stream of the queue. -/
  stream : ∃ line, launch.host.registry.queues.get? launch.queue = some line ∧
    line.device = handle ∧ record.stream = line.stream
  /-- It is of the kernel, in the module that its program was built into for the device. -/
  module : ∃ made program build, launch.host.registry.kernels.get? launch.kernel = some made ∧
    launch.host.registry.programs.get? made.program = some program ∧
    program.buildFor? handle = some build ∧ record.module = build.module ∧
    record.kernel = made.name
  /-- It has the sizes of the range, as they are. -/
  sizes : ∃ geometry, Geometry.ofRange launch.range = .ok geometry ∧
    record.workGroups.map UInt32.toNat = geometry.groups ∧
    record.localSize.map UInt32.toNat = geometry.localSize
  /-- Its parameters are bound from the arguments last set, with the buffers where they are. -/
  parameters : ∃ made module signature device,
    launch.host.registry.kernels.get? launch.kernel = some made ∧
    launch.host.modules.module? record.module = some module ∧
    module.kernel? made.name = some signature ∧
    launch.host.registry.devices.get? handle = some device ∧
    (launch.host.binding handle device.name).block signature
      (withLastSet launch.earlier launch.kernel made) = .ok record.parameters
  /-- It counts the collectors that were attached to the context. -/
  collectors : ∃ line context, launch.host.registry.queues.get? launch.queue = some line ∧
    launch.host.registry.contexts.get? line.context = some context ∧
    record.collectors = context.launchCollectors.length

theorem Recalls.withLastSet_eq {history : List Exchange} (recalls : Recalls history host)
    {kernel : KernelHandle} {made : Kernel}
    (found : host.registry.kernels.get? kernel = some made) :
    withLastSet history kernel made = made := by
  have same : (List.range made.arguments.length).map (fun index => lastSet kernel index history) =
      made.arguments := by
    apply List.ext_getElem?
    intro index
    rw [List.getElem?_map]
    by_cases bound : index < made.arguments.length
    · rw [List.getElem?_range bound, Option.map_some, recalls.set kernel made found index bound]
    · rw [List.getElem?_eq_none (by simpa using bound),
        List.getElem?_eq_none (by simpa using bound)]
      rfl
  unfold withLastSet
  rw [same]

/-- **The record of a launch that ran** says what was asked for. -/
theorem logs_of_launched {history : List Exchange} (recalls : Recalls history host)
    {queue : QueueHandle} {kernel : KernelHandle} {range : LaunchRange} {waits : WaitList}
    {line : Queue} {geometry : Geometry} {request : LaunchRequest} {context : Context}
    (passes : checkLaunch queue kernel range waits host = .ok (line, geometry))
    (asked : launchRequest line kernel geometry (host.withChanged kernel fun entry =>
      { entry with geometry := some geometry }) = .ok request)
    (there : host.registry.contexts.get? line.context = some context) :
    Logs line.device ⟨host, history, queue, kernel, range⟩
      { request.record with collectors := context.launchCollectors.length } := by
  obtain ⟨queued, accepted⟩ := checkLaunch_eq_ok passes
  obtain ⟨noted, program, build, module, signature, device, parameters, found, owner, first,
    registered, known, live, bound, rfl⟩ := launchRequest_eq_ok asked
  -- the kernel differs from the one before by its geometry, which nothing here depends on
  unfold withChanged at found
  simp only [Arena.get?_modify, if_true] at found
  obtain ⟨made, held, rfl⟩ := Option.map_eq_some_iff.mp found
  obtain ⟨groups, sizes⟩ := Geometry.words_ofRange accepted
  exact
    { stream := ⟨line, queued, rfl, rfl⟩
      module := ⟨made, program, build, held, owner, first, rfl, rfl⟩
      sizes := ⟨geometry, accepted, groups, sizes⟩
      parameters := by
        refine ⟨made, module, signature, device, held, registered, known, live, ?_⟩
        rw [recalls.withLastSet_eq held]
        exact bound
      collectors := ⟨line, context, queued, there, rfl⟩ }

/-! ### The logs of all devices -/

theorem enqueuedOn_of_error {call : Call} {error : HostError}
    (failed : (step call before).1 = .error error) :
    enqueuedOn handle (⟨before, call⟩ :: stages) = enqueuedOn handle stages := by
  have none_made : enqueued? handle ⟨before, call⟩ (stages.map Stage.exchange) = none := by
    unfold enqueued? Stage.exchange
    simp only [failed]
  rw [enqueuedOn, none_made, Option.toList_none, List.append_nil]

theorem enqueuedOn_of_call {call : Call}
    (other : ∀ queue kernel range waits, call ≠ .enqueueKernel queue kernel range waits) :
    enqueuedOn handle (⟨before, call⟩ :: stages) = enqueuedOn handle stages := by
  have none_made : enqueued? handle ⟨before, call⟩ (stages.map Stage.exchange) = none := by
    unfold enqueued? Stage.exchange
    split
    · rename_i same
      exact absurd (congrArg Exchange.call same) (other _ _ _ _)
    · rfl
  rw [enqueuedOn, none_made, Option.toList_none, List.append_nil]

/-- The log of every device tells its launches. -/
structure Logged (stages : List Stage) (host : Host SimulatedDevice) : Prop where
  listed : ∀ handle device, host.backend? handle = some device →
    List.Forall₂ (Logs handle) (enqueuedOn handle stages) device.probe.launches
  /-- There were no launches where there is no device. -/
  absent : ∀ handle, host.backend? handle = none → enqueuedOn handle stages = []
  pending : ∀ device ∈ host.pending, device.probe.launches = []

/-- No launch succeeded, and devices were served only. -/
theorem Logged.serves {later : List Stage} (logged : Logged stages before)
    (serves : before.Serves after)
    (same : ∀ handle, enqueuedOn handle later = enqueuedOn handle stages) :
    Logged later after := by
  refine ⟨fun handle device found => ?_, fun handle none_after => ?_, fun device member => ?_⟩
  · obtain ⟨one, earlier, served⟩ := serves.each.some_of found
    rw [same, served.launches]
    exact logged.listed handle one earlier
  · have live := serves.each.isSome_eq handle
    rw [none_after] at live
    rw [same]
    exact logged.absent handle (by simpa using live.symm)
  · obtain ⟨one, among, served⟩ := serves.pending device member
    rw [served.launches]
    exact logged.pending one among

/-- Devices that were just listed have launched nothing. -/
theorem Logged.enumerate (logged : Logged stages before) (regular : before.Regular)
    (unlisted : before.isEnumerated = false) : Logged stages before.enumerate := by
  have none_made : ∀ handle, enqueuedOn handle stages = [] :=
    fun handle => logged.absent handle (regular.unlisted unlisted handle)
  refine ⟨fun handle device found => ?_, fun handle _ => none_made handle, List.forall_mem_nil _⟩
  rw [none_made, logged.pending device (enumerate_origin regular unlisted found)]
  exact .nil

/-- Another device may have been replaced by one with the same launches. -/
theorem Logged.setBackend {later : List Stage} (logged : Logged stages before)
    {one changed : SimulatedDevice} (found : before.backend? handle = some one)
    (here : List.Forall₂ (Logs handle) (enqueuedOn handle later) changed.probe.launches)
    (others : ∀ place, place ≠ handle → enqueuedOn place later = enqueuedOn place stages) :
    Logged later (before.setBackend handle changed) := by
  refine ⟨fun place device there => ?_, fun place none_there => ?_, logged.pending⟩
  · rw [backend?_setBackend, found] at there
    split at there
    · rename_i same
      subst same
      cases there
      exact here
    · rename_i differ
      rw [others place differ]
      exact logged.listed place device there
  · rw [backend?_setBackend, found] at none_there
    split at none_there
    · cases none_there
    · rename_i differ
      rw [others place differ]
      exact logged.absent place none_there

theorem Service.logged {call : Call} {result : Except HostError Answer}
    (service : Service before call result after) (outcome : (step call before).1 = result)
    (regular : before.Regular) (recalls : Recalls (stages.map Stage.exchange) before)
    (logged : Logged stages before) : Logged (⟨before, call⟩ :: stages) after := by
  cases service with
  | served plain serves =>
    refine logged.serves serves fun handle => enqueuedOn_of_call ?_
    rintro _ _ _ _ rfl
    cases plain
  | failed serves => exact logged.serves serves fun handle => enqueuedOn_of_error outcome
  | listed unlisted =>
    exact (logged.enumerate regular unlisted).serves (.refl _) fun handle =>
      enqueuedOn_of_call fun _ _ _ _ => nofun
  | @queueMade context device properties one changed stream found streamed =>
    have same : ∀ handle, enqueuedOn handle
        (⟨before, .createQueue context device properties⟩ :: stages) =
          enqueuedOn handle stages := fun handle => enqueuedOn_of_call fun _ _ _ _ => nofun
    refine { logged.setBackend found ?_ fun place _ => same place with }
    rw [same, streamed.launches]
    exact logged.listed device one found
  | @kernelMade program name kernel _ =>
    have kept : Logged stages { before with registry := (before.registry.addKernel kernel).2 } :=
      { logged with }
    exact kept.serves (.refl _) fun handle => enqueuedOn_of_call fun _ _ _ _ => nofun
  | @argumentSet kernel index value _ =>
    have kept : Logged stages (before.withChanged kernel fun entry =>
        { entry with arguments := entry.arguments.set index (some value) }) := { logged with }
    exact kept.serves (.refl _) fun handle => enqueuedOn_of_call fun _ _ _ _ => nofun
  | @launched queue kernel range waits line geometry request context middle one changed recorders
      passes asked there serves found ran =>
    have queued := (checkLaunch_eq_ok passes).1
    have made : ∀ place, enqueued? place ⟨before, .enqueueKernel queue kernel range waits⟩
        (stages.map Stage.exchange) =
        if line.device = place then
          some ⟨before, stages.map Stage.exchange, queue, kernel, range⟩ else none := by
      intro place
      unfold enqueued? Stage.exchange
      simp only [outcome, queued, Option.map_some, Option.some.injEq]
    -- the device of the queue gets one record more, the other devices were served at most
    have earlier : Logged stages middle := logged.serves serves fun _ => rfl
    refine { earlier.setBackend found ?_ fun place differ => ?_ with }
    · rw [enqueuedOn, made, if_pos rfl, ran.launches]
      refine List.rel_append (earlier.listed line.device one found) ?_
      exact .cons (logs_of_launched recalls passes asked there) .nil
    · rw [enqueuedOn, made, if_neg (Ne.symm differ), Option.toList_none, List.append_nil]

theorem Course.logged (course : Course stages host) : Logged stages host := by
  induction course with
  | start settings devices =>
    refine ⟨fun _ _ found => absurd found.symm (Option.some_ne_none _), fun _ _ => rfl,
      fun device member => ?_⟩
    obtain ⟨given, _, rfl⟩ := List.mem_map.mp member
    rfl
  | call course call logged =>
    exact (step_service _ call).logged rfl course.run.regular course.run.recalls logged
  | turn _ position switch logged =>
    exact logged.serves (serves_turn _ position switch) fun _ => rfl

end ComputeHost.Host
