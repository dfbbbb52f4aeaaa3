/-
**The collectors that are attached to contexts.**

Collectors are attached to a context and detached from it by calls, and a launch uses up those of
the next launch. Nothing else touches them, and nothing but a launch tells them anything.

* `silent_step` — calls that neither attach, clear nor launch leave all collectors alone.
* `handOver_outcome` — a launch is refused and leaves all collectors, or takes those of the context.
* `recorder_tellAll` — every collector takes the signals to it, in order.
* `step_enqueueKernel` — what a launch does to collectors.
-/

import ComputeHost.Proofs.Host.Course
import ComputeHost.Proofs.Host.Refusal

namespace ComputeHost

/-- Whether the call attaches collectors, clears them or launches a kernel. -/
def Call.attends : Call → Bool
  | .addCollector .. | .clearCollectors _ | .enqueueKernel .. => true
  | _ => false

namespace Host

open ComputeHost.Action

variable {host before middle after : Host SimulatedDevice} {stages : List Stage}

/-! ### Calls that leave collectors alone -/

/-- No collector was told anything, attached or detached. -/
structure Silent (before after : Host SimulatedDevice) : Prop where
  recorders : after.recorders = before.recorders
  attached : ∀ context, after.attached context = before.attached context

theorem Silent.refl (host : Host SimulatedDevice) : host.Silent host := ⟨rfl, fun _ => rfl⟩

theorem Silent.trans (first : before.Silent middle) (second : middle.Silent after) :
    before.Silent after :=
  ⟨second.recorders.trans first.recorders,
    fun context => (second.attached context).trans (first.attached context)⟩

theorem framed_silent : Framed Silent where
  trans := Silent.trans
  across := by
    intro before after across
    obtain ⟨devices, same⟩ := across.rest
    rw [same]
    exact ⟨rfl, fun _ => rfl⟩
  apart apart := ⟨apart.recorders, apart.attached⟩

/-- A new context has no collectors, like the handle before. -/
theorem silent_createContext (packed : host.registry.contexts.Packed)
    (devices : List DeviceHandle) (notify : Bool) :
    host.Silent (final (createContext devices notify host)) := by
  unfold createContext
  cases passes : checkContext devices notify host with
  | error error =>
    rw [bind_of_error (check_of_error passes)]
    exact .refl host
  | ok _ =>
    rw [bind_of_ok (check_of_ok passes)]
    refine ⟨rfl, fun context => ?_⟩
    show ((((host.registry.contexts.insert { devices }).2.get? context).map fun entry =>
      (entry.persistent, entry.oneShot)).getD ([], [])) = _
    rw [packed.get?_insert, attached]
    cases host.registry.contexts.get? context with
    | some entry => rw [Option.some_or]
    | none =>
      rw [Option.none_or]
      split <;> rfl

theorem silent_createQueue (context : ContextHandle) (device : DeviceHandle)
    (properties : QueueProperties) :
    Within Silent (createQueue context device properties :
      HostAction SimulatedDevice QueueHandle) := by
  refine framed_silent.seq (framed_silent.check _) fun _ => ?_
  refine framed_silent.seq (fun host => ?_) fun stream host =>
    ⟨rfl, attached_modify rfl fun _ => rfl⟩
  obtain ⟨devices, same⟩ := final_onDevice host device (fun cause => .streamCreation cause.message)
    DeviceDriver.createStream
  rw [same]
  exact ⟨rfl, fun _ => rfl⟩

/-- The host after a call is the one after its action. -/
theorem step_host (call : Call) (host : Host SimulatedDevice) :
    (step call host).2 = final (perform call host) := by
  unfold step
  cases perform call host <;> rfl

/-- **A call that neither attaches, clears nor launches leaves all collectors alone.** -/
theorem silent_step (packed : before.registry.contexts.Packed) {call : Call}
    (apart : call.attends = false) : before.Silent (step call before).2 := by
  rw [step_host]
  cases call with
  | platformIds =>
    rw [← step_host, step_platformIds]
    split
    · exact .refl before
    · exact ⟨rfl, fun _ => rfl⟩
  | createContext devices notify =>
    unfold perform
    rw [final_map]
    exact silent_createContext packed devices notify
  | createQueue context device properties =>
    exact (silent_createQueue context device properties).map before
  | createKernel program name =>
    exact (framed_silent.seq (framed_silent.check _) fun _ host => ⟨rfl, fun _ => rfl⟩).map before
  | setArgument kernel index value =>
    exact within_quietly
      (framed_silent.seq (framed_silent.check _) fun _ host => ⟨rfl, fun _ => rfl⟩) before
  | addCollector | clearCollectors | enqueueKernel => cases apart
  | _ => exact framed_silent.perform rfl before

/-! ### Launches up to the device -/

/-- What a launch that was handed over found and took. -/
structure HandedOver (queue : QueueHandle) (host : Host SimulatedDevice) (line : Queue)
    (entry : Context) (device : SimulatedDevice) (request : LaunchRequest)
    (middle : Host SimulatedDevice) : Prop where
  queued : host.registry.queues.get? queue = some line
  there : host.registry.contexts.get? line.context = some entry
  collectors : request.collectors = entry.launchCollectors
  found : middle.backend? line.device = some device
  recorders : middle.recorders = host.recorders
  /-- The one-shot collectors of the context are used up. -/
  attached : ∀ context, middle.attached context =
    if context = line.context then (entry.persistent, []) else host.attached context

/-- **A launch is refused before any device is asked, and leaves all collectors alone, or it takes
the collectors of the context of its queue.** -/
theorem handOver_outcome (queue : QueueHandle) (kernel : KernelHandle) (range : LaunchRange)
    (waits : WaitList) (host : Host SimulatedDevice) :
    (∃ error after, handOver queue kernel range waits host = .error error after ∧
      error.isFromDevice = false ∧ host.Silent after) ∨
    ∃ line entry device request middle,
      handOver queue kernel range waits host = .ok (line.device, request) middle ∧
      HandedOver queue host line entry device request middle := by
  rcases handOver_run queue kernel range waits host with
    ⟨error, after, refused, early, rfl | ⟨geometry, rfl⟩⟩ |
      ⟨line, geometry, request, entry, ready, hands⟩
  · exact .inl ⟨error, _, refused, early, .refl _⟩
  · exact .inl ⟨error, _, refused, early, ⟨rfl, fun _ => rfl⟩⟩
  · obtain ⟨_, _, _, _, _, device, _, _, _, _, _, _, live, _, _⟩ := launchRequest_eq_ok ready.asked
    refine .inr ⟨line, entry, device.backend, _, _, hands, (checkLaunch_eq_ok ready.passes).1,
      ready.there, rfl, congrArg (Option.map Device.backend) live, rfl, fun context => ?_⟩
    have used : (host.handedOver kernel geometry line.context).registry.contexts =
        host.registry.contexts.modify line.context fun entry => { entry with oneShot := [] } := rfl
    exact attached_change used ready.there context

/-! ### What collectors are told -/

/-- The signals to one collector. -/
def told (collector : CollectorId) (signals : List (CollectorId × Signal)) : List Signal :=
  signals.filterMap fun signal => if signal.1 = collector then some signal.2 else none

theorem told_append (collector : CollectorId) (first second : List (CollectorId × Signal)) :
    told collector (first ++ second) = told collector first ++ told collector second :=
  List.filterMap_append

theorem told_cons (collector : CollectorId) (signal : CollectorId × Signal)
    (rest : List (CollectorId × Signal)) :
    told collector (signal :: rest) =
      if signal.1 = collector then signal.2 :: told collector rest else told collector rest := by
  unfold told
  rw [List.filterMap_cons]
  split <;> simp_all

theorem lookup_filter_ne {collector other : CollectorId} (differ : collector ≠ other)
    (recorders : List (CollectorId × Recorder)) :
    (recorders.filter fun entry => entry.1 ≠ other).lookup collector =
      recorders.lookup collector := by
  induction recorders with
  | nil => rfl
  | cons entry rest ih =>
    by_cases here : entry.1 = other
    · have skipped : (collector == entry.1) = false := by simp [here, differ]
      rw [List.filter_cons_of_neg (by simp [here]), ih, List.lookup_cons, skipped]
    · rw [List.filter_cons_of_pos (by simp [here]), List.lookup_cons, List.lookup_cons, ih]

theorem recorder_tell (host : Host SimulatedDevice) (other collector : CollectorId)
    (signal : Signal) :
    (host.tell other signal).recorder collector =
      if other = collector then (host.recorder collector).observe host.executing signal
      else host.recorder collector := by
  unfold tell recorder
  simp only [List.lookup_cons]
  by_cases here : other = collector
  · subst here
    simp
  · have skipped : (collector == other) = false := by simp [Ne.symm here]
    rw [if_neg here, skipped, lookup_filter_ne (Ne.symm here)]

/-- A collector takes the signals to it, in order. -/
theorem recorder_tellAll (host : Host SimulatedDevice) (collector : CollectorId)
    (signals : List (CollectorId × Signal)) :
    (host.tellAll signals).recorder collector =
      (host.recorder collector).observeAll host.executing (told collector signals) := by
  unfold tellAll
  induction signals generalizing host with
  | nil => rfl
  | cons signal rest ih =>
    rw [List.foldl_cons, ih, recorder_tell, told_cons]
    split <;> rfl

/-- The result of a launch, by that of the device. -/
def launchResult (kernel : String) : Except DeviceError Unit → Except HostError Answer
  | .ok () => .ok .nothing
  | .error (.execution fault) => .error (.launchFailed kernel fault)
  | .error cause => .error (.device cause)

/-- **A request that is handed over runs on its device**, and the collectors are told what the
device tells them, while the host counts as executing. -/
theorem dispatch_outcome {handle : DeviceHandle} {device : SimulatedDevice}
    (found : host.backend? handle = some device) (request : LaunchRequest) :
    ∃ after, (∀ context, after.attached context = host.attached context) ∧
      (∀ collector, after.recorder collector = (host.recorder collector).observeAll true
        (told collector (launchSelected request device).1.signals)) ∧
      ((launchResult request.kernel (launchSelected request device).1.result = .ok .nothing ∧
          dispatch handle request host = .ok () after) ∨
        ∃ error, launchResult request.kernel (launchSelected request device).1.result =
          .error error ∧ dispatch handle request host = .error error after) := by
  obtain ⟨entry, live, rfl⟩ := checked_of_backend? found
  let running := { host with executing := true }.setBackend handle
    (launchSelected request entry.backend).2
  let told := running.tellAll (launchSelected request entry.backend).1.signals
  have ran : execute handle request host =
      .ok (launchSelected request entry.backend).1.result { told with executing := false } := by
    unfold execute
    rw [live]
  have attached : ∀ context, told.attached context = host.attached context := by
    intro context
    obtain ⟨recorders, same⟩ := tellAll_eq running (launchSelected request entry.backend).1.signals
    rw [show told = _ from same]
    rfl
  have heard : ∀ collector, told.recorder collector = (host.recorder collector).observeAll true
      (Host.told collector (launchSelected request entry.backend).1.signals) :=
    fun collector => recorder_tellAll running collector _
  unfold dispatch
  rw [bind_of_ok ran]
  cases result : (launchSelected request entry.backend).1.result with
  | ok _ =>
    refine ⟨_, ?_, ?_, .inl ⟨rfl, rfl⟩⟩
    exacts [attached, heard]
  | error cause =>
    cases cause
    all_goals
      refine ⟨_, ?_, ?_, .inr ⟨_, rfl, rfl⟩⟩
      exacts [attached, heard]

/-- Whether a launch of this result was handed to a device. -/
def handsOver : Except HostError Answer → Bool
  | .ok _ => true
  | .error error => error.isFromDevice

theorem handsOver_launchResult (kernel : String) (result : Except DeviceError Unit) :
    handsOver (launchResult kernel result) = true := by
  cases result with
  | ok _ => rfl
  | error cause => cases cause <;> rfl

/-- **What a launch does to collectors.** -/
theorem step_enqueueKernel (queue : QueueHandle) (kernel : KernelHandle) (range : LaunchRange)
    (waits : WaitList) (host : Host SimulatedDevice) :
    (∃ error after, handOver queue kernel range waits host = .error error after ∧
      step (.enqueueKernel queue kernel range waits) host = (.error error, after) ∧
      error.isFromDevice = false ∧ host.Silent after) ∨
    ∃ line entry device request middle after,
      handOver queue kernel range waits host = .ok (line.device, request) middle ∧
      HandedOver queue host line entry device request middle ∧
      step (.enqueueKernel queue kernel range waits) host =
        (launchResult request.kernel (launchSelected request device).1.result, after) ∧
      (∀ context, after.attached context = middle.attached context) ∧
      ∀ collector, after.recorder collector = (host.recorder collector).observeAll true
        (told collector (launchSelected request device).1.signals) := by
  have performed : perform (.enqueueKernel queue kernel range waits) =
      (quietly (handOver queue kernel range waits >>= fun handed =>
        dispatch handed.1 handed.2) : HostAction SimulatedDevice Answer) := by
    rw [← enqueueKernel_eq]
    rfl
  rcases handOver_outcome queue kernel range waits host with
    ⟨error, after, refused, early, silent⟩ | ⟨line, entry, device, request, middle, hands, taken⟩
  · left
    refine ⟨error, after, refused, step_of_error ?_, early, silent⟩
    rw [performed]
    exact bind_of_error (bind_of_error refused)
  · right
    obtain ⟨after, attached, heard, ended⟩ := dispatch_outcome taken.found request
    refine ⟨line, entry, device, request, middle, after, hands, taken, ?_, attached, ?_⟩
    · rcases ended with ⟨result, ran⟩ | ⟨error, result, ran⟩
      · rw [result]
        refine step_of_ok ?_
        rw [performed]
        exact bind_of_ok ((bind_of_ok hands).trans ran)
      · rw [result]
        refine step_of_error ?_
        rw [performed]
        exact bind_of_error ((bind_of_ok hands).trans ran)
    · intro collector
      rw [heard, recorder, taken.recorders, recorder]

end Host

end ComputeHost
