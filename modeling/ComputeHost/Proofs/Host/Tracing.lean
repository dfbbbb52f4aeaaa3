/-
**Who is told of a launch, and what.**

The collectors of a launch are told from the calls before it. Those attached for every launch stay
until their context is cleared; those attached for the next launch go with the first launch in the
context that a device is given, whether or not the device runs it. A launch that is refused earlier
takes none.

* `attachedSince`, `due` — what the calls so far say about the collectors of the next launch.
* `Course.attended` — these are the collectors that the context has.
* `launchSelected_signals`, `told_signals` — what a device tells the collectors of a launch.
* `Course.traces_delivered` — the traces of a launch after every course.
-/

import ComputeHost.Proofs.Host.Attachment

namespace ComputeHost

namespace Host

open ComputeHost.Action

variable {host before after : Host SimulatedDevice} {stages : List Stage} {context : ContextHandle}

/-! ### What the calls so far say -/

/-- The collector that the call attached to the context, if it did. -/
def Stage.attached? (context : ContextHandle) (persistence : Persistence) (stage : Stage) :
    Option CollectorId :=
  match stage.call, stage.exchange.result with
  | .addCollector other collector kind, .ok _ =>
    if other = context ∧ kind = persistence then some collector else none
  | _, _ => none

/-- Whether the call cleared the collectors of the context. -/
def Stage.clears (context : ContextHandle) (stage : Stage) : Bool :=
  match stage.call, stage.exchange.result with
  | .clearCollectors other, .ok _ => other = context
  | _, _ => false

/-- Whether the call gave a device a launch on a queue of the context: it succeeded, or failed with
an error of the device. -/
def Stage.dispatches (context : ContextHandle) (stage : Stage) : Bool :=
  match stage.call with
  | .enqueueKernel queue _ _ _ =>
    handsOver stage.exchange.result &&
      (stage.host.registry.queues.get? queue).any fun line => line.context = context
  | _ => false

/-- The collectors attached to the context after the last call that ends this, the first in
front. -/
def attachedSince (ends : Stage → Bool) (context : ContextHandle) (persistence : Persistence) :
    List Stage → List CollectorId
  | [] => []
  | stage :: earlier =>
    if ends stage then []
    else attachedSince ends context persistence earlier ++
      (stage.attached? context persistence).toList

/-- The persistent collectors of a context: those attached since it was cleared. -/
def persistentOf (context : ContextHandle) (stages : List Stage) : List CollectorId :=
  attachedSince (Stage.clears context) context .persistent stages

/-- The one-shot collectors of a context: those attached since it was cleared and since the last
launch in it that a device was given. -/
def oneShotOf (context : ContextHandle) (stages : List Stage) : List CollectorId :=
  attachedSince (fun stage => stage.clears context || stage.dispatches context) context .oneShot
    stages

/-- The collectors of the next launch in a context. -/
def due (context : ContextHandle) (stages : List Stage) : List CollectorId :=
  persistentOf context stages ++ oneShotOf context stages

/-- A collector that is due was attached. -/
theorem mem_attachedSince {ends : Stage → Bool} {persistence : Persistence}
    {collector : CollectorId} (among : collector ∈ attachedSince ends context persistence stages) :
    ∃ stage ∈ stages, stage.attached? context persistence = some collector := by
  induction stages with
  | nil => cases among
  | cons stage earlier ih =>
    rw [attachedSince] at among
    split at among
    · cases among
    · rcases List.mem_append.mp among with old | new
      · obtain ⟨one, member, attached⟩ := ih old
        exact ⟨one, List.mem_cons_of_mem _ member, attached⟩
      · exact ⟨stage, List.mem_cons_self, Option.mem_toList.mp new⟩

/-- What a call does to what is due, where it did not end anything. -/
theorem attachedSince_cons {ends : Stage → Bool} {persistence : Persistence} {stage : Stage}
    (goes_on : ends stage = false) :
    attachedSince ends context persistence (stage :: stages) =
      attachedSince ends context persistence stages ++
        (stage.attached? context persistence).toList := by
  rw [attachedSince, goes_on]
  rfl

theorem attachedSince_of_ends {ends : Stage → Bool} {persistence : Persistence} {stage : Stage}
    (ended : ends stage = true) :
    attachedSince ends context persistence (stage :: stages) = [] := by
  rw [attachedSince, ended]
  rfl

/-- The call neither attached nor cleared nor gave a device a launch. -/
structure Stage.Idle (stage : Stage) : Prop where
  attached : ∀ context persistence, stage.attached? context persistence = none
  clears : ∀ context, stage.clears context = false
  dispatches : ∀ context, stage.dispatches context = false

/-- What the calls say of all contexts is what these have. -/
def Attended (stages : List Stage) (host : Host SimulatedDevice) : Prop :=
  ∀ context, host.attached context = (persistentOf context stages, oneShotOf context stages)

theorem Attended.silent {stage : Stage} (attended : Attended stages before)
    (silent : before.Silent after) (idle : stage.Idle) : Attended (stage :: stages) after := by
  intro context
  have quiet : (stage.clears context || stage.dispatches context) = false := by
    rw [idle.clears, idle.dispatches]
    rfl
  rw [silent.attached, attended, persistentOf, persistentOf, oneShotOf, oneShotOf,
    attachedSince_cons (idle.clears context), attachedSince_cons quiet, idle.attached,
    idle.attached, Option.toList_none, List.append_nil, List.append_nil]

theorem idle_of_apart {call : Call} (apart : call.attends = false) : Stage.Idle ⟨host, call⟩ := by
  refine ⟨fun context persistence => ?_, fun context => ?_, fun context => ?_⟩ <;>
    cases call <;> first | rfl | cases apart

/-- A call that fails before any device is asked does none of these. -/
theorem idle_of_error {call : Call} {error : HostError}
    (failed : (step call host).1 = .error error) (early : error.isFromDevice = false) :
    Stage.Idle ⟨host, call⟩ := by
  refine ⟨fun context persistence => ?_, fun context => ?_, fun context => ?_⟩
  · unfold Stage.attached? Stage.exchange
    simp only [failed]
  · unfold Stage.clears Stage.exchange
    simp only [failed]
  · unfold Stage.dispatches Stage.exchange
    simp only [failed, handsOver, early, Bool.false_and]
    split <;> rfl

/-! ### Attaching and clearing -/

theorem changeContext_outcome (handle : ContextHandle) (change : Context → Context)
    (host : Host SimulatedDevice) :
    (∃ error, error.isFromDevice = false ∧
      changeContext handle change host = .error error host) ∨
    ∃ entry, host.registry.contexts.get? handle = some entry ∧
      changeContext handle change host = .ok () { host with
        registry :=
          { host.registry with contexts := host.registry.contexts.modify handle change } } := by
  unfold changeContext
  rw [discard_check]
  cases found : host.registry.contexts.checked handle with
  | error error =>
    have fails : check (fun host => discard (host.registry.contexts.checked handle)) host =
        .error error host := check_of_error (by rw [found]; rfl)
    exact .inl ⟨error, checked_refuses _ _ error found, bind_of_error fails⟩
  | ok entry =>
    have passes : check (fun host => discard (host.registry.contexts.checked handle)) host =
        .ok ⟨⟩ host := check_of_ok (by rw [found]; rfl)
    exact .inr ⟨entry, Arena.checked_eq_ok_iff.mp found, bind_of_ok passes⟩

theorem attended_addCollector (attended : Attended stages before) (target : ContextHandle)
    (collector : CollectorId) (persistence : Persistence) :
    Attended (⟨before, .addCollector target collector persistence⟩ :: stages)
      (step (.addCollector target collector persistence) before).2 := by
  rcases changeContext_outcome target (fun entry => entry.addCollector collector persistence)
    before with ⟨error, early, failed⟩ | ⟨entry, found, done⟩
  · have ran : step (.addCollector target collector persistence) before = (.error error, before) :=
      step_of_error (bind_of_error failed)
    rw [ran]
    exact attended.silent (.refl before) (idle_of_error (by rw [ran]) early)
  · have ran : step (.addCollector target collector persistence) before = (.ok .nothing, _) :=
      step_of_ok (bind_of_ok done)
    have attaches : ∀ context kind, Stage.attached? context kind
        ⟨before, .addCollector target collector persistence⟩ =
          if target = context ∧ persistence = kind then some collector else none := by
      intro context kind
      simp only [Stage.attached?, Stage.exchange, ran]
    intro context
    have stands := attended context
    rw [ran, attached_change rfl found, persistentOf, oneShotOf, attachedSince_cons rfl,
      attachedSince_cons rfl, attaches, attaches]
    -- the list of the right persistence of the right context gets the collector
    by_cases here : context = target
    · subst here
      rw [attached_of_some found] at stands
      obtain ⟨persistent, one_shot⟩ := Prod.mk.inj stands
      cases persistence <;>
        simp [Context.addCollector, persistent, one_shot, persistentOf, oneShotOf]
    · rw [if_neg here, stands, if_neg fun both => here both.1.symm,
        if_neg fun both => here both.1.symm]
      simp [persistentOf, oneShotOf]

theorem attended_clearCollectors (attended : Attended stages before) (target : ContextHandle) :
    Attended (⟨before, .clearCollectors target⟩ :: stages)
      (step (.clearCollectors target) before).2 := by
  rcases changeContext_outcome target Context.clearCollectors before with
    ⟨error, early, failed⟩ | ⟨entry, found, done⟩
  · have ran : step (.clearCollectors target) before = (.error error, before) :=
      step_of_error (bind_of_error failed)
    rw [ran]
    exact attended.silent (.refl before) (idle_of_error (by rw [ran]) early)
  · have ran : step (.clearCollectors target) before = (.ok .nothing, _) :=
      step_of_ok (bind_of_ok done)
    have clears : ∀ context, Stage.clears context ⟨before, .clearCollectors target⟩ =
        decide (target = context) := by
      intro context
      simp only [Stage.clears, Stage.exchange, ran]
    intro context
    rw [ran, attached_change rfl found]
    by_cases here : context = target
    · have ended : Stage.clears context ⟨before, .clearCollectors target⟩ = true := by
        rw [clears, here, decide_eq_true rfl]
      rw [if_pos here, persistentOf, oneShotOf, attachedSince_of_ends ended,
        attachedSince_of_ends (by rw [ended]; rfl)]
      rfl
    · have goes_on : Stage.clears context ⟨before, .clearCollectors target⟩ = false := by
        rw [clears, decide_eq_false (Ne.symm here)]
      rw [if_neg here, attended, persistentOf, oneShotOf, persistentOf, oneShotOf,
        attachedSince_cons goes_on, attachedSince_cons (by rw [goes_on]; rfl)]
      simp [Stage.attached?]

/-! ### Launching -/

theorem attended_enqueueKernel (attended : Attended stages before) (queue : QueueHandle)
    (kernel : KernelHandle) (range : LaunchRange) (waits : WaitList) :
    Attended (⟨before, .enqueueKernel queue kernel range waits⟩ :: stages)
      (step (.enqueueKernel queue kernel range waits) before).2 := by
  rcases step_enqueueKernel queue kernel range waits before with
    ⟨error, after, -, ran, early, silent⟩ |
      ⟨line, entry, device, request, middle, after, -, taken, ran, attached, -⟩
  · rw [ran]
    exact attended.silent silent (idle_of_error (by rw [ran]) early)
  · have dispatches : ∀ context, Stage.dispatches context
        ⟨before, .enqueueKernel queue kernel range waits⟩ = decide (line.context = context) := by
      intro context
      simp only [Stage.dispatches, Stage.exchange, ran, handsOver_launchResult, taken.queued,
        Option.any_some, Bool.true_and]
    intro context
    have persistent : persistentOf context
        (⟨before, .enqueueKernel queue kernel range waits⟩ :: stages) =
          persistentOf context stages := by
      rw [persistentOf, persistentOf, attachedSince_cons rfl]
      simp [Stage.attached?]
    rw [ran, attached, taken.attached, persistent]
    -- the one-shot collectors of the context of the queue are gone, those of others stay
    by_cases here : context = line.context
    · have stands := attended context
      rw [here, attached_of_some taken.there] at stands
      have ended : Stage.dispatches context ⟨before, .enqueueKernel queue kernel range waits⟩ =
          true := by rw [dispatches, here, decide_eq_true rfl]
      rw [if_pos here, here, ← (Prod.mk.inj stands).1, oneShotOf,
        attachedSince_of_ends (by rw [← here, ended, Bool.or_true])]
    · have goes_on : Stage.dispatches context
          ⟨before, .enqueueKernel queue kernel range waits⟩ = false := by
        rw [dispatches, decide_eq_false (Ne.symm here)]
      rw [if_neg here, attended, oneShotOf, oneShotOf, attachedSince_cons (by rw [goes_on]; rfl)]
      simp [Stage.attached?]

/-- Calls other than launches tell collectors nothing. -/
theorem recorders_step (packed : before.registry.contexts.Packed) {call : Call}
    (other : ∀ queue kernel range waits, call ≠ .enqueueKernel queue kernel range waits) :
    (step call before).2.recorders = before.recorders := by
  have changing : ∀ handle change,
      (step call before).2 = final (changeContext handle change before) →
        (step call before).2.recorders = before.recorders := by
    intro handle change same
    rw [same]
    rcases changeContext_outcome handle change before with ⟨error, -, failed⟩ | ⟨entry, -, done⟩
    · rw [failed, final]
    · rw [done, final]
  cases apart : call.attends with
  | false => exact (silent_step packed apart).recorders
  | true =>
    cases call with
    | addCollector context collector persistence =>
      exact changing context _ ((step_host _ before).trans (final_quietly _ before))
    | clearCollectors context =>
      exact changing context _ ((step_host _ before).trans (final_quietly _ before))
    | enqueueKernel queue kernel range waits => exact absurd rfl (other queue kernel range waits)
    | _ => cases apart

/-- Turning a switch of a device leaves all collectors alone. -/
theorem silent_turn (host : Host SimulatedDevice) (position : Nat)
    (switch : SimulatedDevice.Switch) :
    host.Silent (host.adjust position fun device => device.turn switch) := by
  unfold adjust
  split
  · split
    · exact ⟨rfl, fun _ => rfl⟩
    · exact .refl host
  · exact ⟨rfl, fun _ => rfl⟩

/-- **The collectors of a context are those that the calls so far say.** -/
theorem Course.attended (course : Course stages host) : Attended stages host := by
  induction course with
  | start settings devices => exact fun _ => rfl
  | @call stages host course call attended =>
    cases apart : call.attends with
    | false =>
      exact attended.silent (silent_step course.run.regular.packed.contexts apart)
        (idle_of_apart apart)
    | true =>
      cases call with
      | addCollector context collector persistence =>
        exact attended_addCollector attended context collector persistence
      | clearCollectors context => exact attended_clearCollectors attended context
      | enqueueKernel queue kernel range waits =>
        exact attended_enqueueKernel attended queue kernel range waits
      | _ => cases apart
  | turn course position switch attended =>
    intro context
    rw [(silent_turn _ position switch).attached]
    exact attended context

/-! ### What a device tells -/

/-- What a collector is told of one launch. -/
def traceOf (summary : LaunchSummary) (ran : Bool) : List Signal :=
  [.start summary, .event (.launchBegin summary)] ++
    ((if ran then [.event (.profile (.instructionCount summary.workItems))] else []) ++
      [.event (.launchEnd summary.kernel ran), .finish])

/-- Every collector is told as often as it is listed. -/
theorem told_flatMap (collector : CollectorId) (collectors : List CollectorId)
    (signals : List Signal) :
    told collector (collectors.flatMap fun other => signals.map (Prod.mk other)) =
      (List.replicate (collectors.count collector) signals).flatten := by
  have own : told collector (signals.map (Prod.mk collector)) = signals := by
    simp [told, List.filterMap_map]
  have other : ∀ one, one ≠ collector → told collector (signals.map (Prod.mk one)) = [] := by
    intro one differ
    simp [told, differ]
  induction collectors with
  | nil => rfl
  | cons one rest ih =>
    rw [List.flatMap_cons, told_append, ih]
    by_cases here : one = collector
    · rw [here, own, List.count_cons_self, List.replicate_succ, List.flatten_cons]
    · rw [other one here, List.nil_append, List.count_cons_of_ne here]

theorem told_openingSignals (collector : CollectorId) (summary : LaunchSummary)
    (collectors : List CollectorId) :
    told collector (SimulatedDevice.openingSignals summary collectors) =
      (List.replicate (collectors.count collector)
        [.start summary, .event (.launchBegin summary)]).flatten :=
  told_flatMap collector collectors [.start summary, .event (.launchBegin summary)]

theorem told_closingSignals (collector : CollectorId) (summary : LaunchSummary) (ran : Bool)
    (collectors : List CollectorId) :
    told collector (SimulatedDevice.closingSignals summary ran collectors) =
      (List.replicate (collectors.count collector)
        ((if ran then [.event (.profile (.instructionCount summary.workItems))] else []) ++
          [.event (.launchEnd summary.kernel ran), .finish])).flatten := by
  cases ran with
  | false =>
    exact told_flatMap collector collectors [.event (.launchEnd summary.kernel false), .finish]
  | true =>
    exact told_flatMap collector collectors
      [.event (.profile (.instructionCount summary.workItems)),
        .event (.launchEnd summary.kernel true), .finish]

/-- What a device that ran a launch tells a collector that is listed once, or not at all. -/
theorem told_signals (summary : LaunchSummary) (ran : Bool) {collector : CollectorId}
    {collectors : List CollectorId} {signals : List (CollectorId × Signal)}
    (same : signals = SimulatedDevice.openingSignals summary collectors ++
      SimulatedDevice.closingSignals summary ran collectors) :
    (collectors.count collector = 0 → told collector signals = []) ∧
      (collectors.count collector = 1 → told collector signals = traceOf summary ran) := by
  rw [same, told_append, told_openingSignals, told_closingSignals]
  refine ⟨fun absent => ?_, fun once => ?_⟩
  · rw [absent]
    rfl
  · rw [once, List.replicate_one, List.replicate_one, List.flatten_singleton,
      List.flatten_singleton, traceOf]

end Host

namespace SimulatedDevice

open ComputeHost.Action

/-- A device that refuses a launch does not say that the kernel failed. -/
theorem checkLaunch_refuses {request : LaunchRequest} {device after : SimulatedDevice}
    {cause : DeviceError} (refused : checkLaunch request device = .error cause after)
    (fault : String) : cause ≠ .execution fault := by
  rintro rfl
  unfold checkLaunch at refused
  rcases bind_eq_error_iff.mp refused with unselected | ⟨_, middle, -, refused⟩
  · cases selected : device.selected with
    | true =>
      rw [ensureSelected_of_selected selected] at unselected
      cases unselected
    | false =>
      rw [ensureSelected_of_unselected selected] at unselected
      cases unselected
  · rcases bind_eq_error_iff.mp refused with got | ⟨found, _, -, refused⟩
    · cases got
    · cases known : found.loaded? request.module with
      | none =>
        simp only [known] at refused
        cases refused
      | some loaded =>
        simp only [known] at refused
        split at refused <;> cases refused

/-- **What a device tells the collectors of a launch**: nothing if it refuses the launch, and else
how it began and how it ended. -/
theorem launchSelected_signals (request : LaunchRequest) (device : SimulatedDevice) :
    (∃ cause, (Host.launchSelected request device).1.result = .error cause ∧
      (∀ fault, cause ≠ .execution fault) ∧ (Host.launchSelected request device).1.signals = []) ∨
    ∃ ran : Bool,
      (Host.launchSelected request device).1.signals =
        openingSignals (request.summary device.properties.name) request.collectors ++
          closingSignals (request.summary device.properties.name) ran request.collectors ∧
      (ran = true → (Host.launchSelected request device).1.result = .ok ()) ∧
      (ran = false → ∃ fault,
        (Host.launchSelected request device).1.result = .error (.execution fault)) := by
  have same := checkLaunch_of_selected device.selected_select request
  show (∃ cause, (launch request device.select).1.result = .error cause ∧ _ ∧
      (launch request device.select).1.signals = []) ∨
    ∃ ran : Bool, (launch request device.select).1.signals = _ ∧
      (ran = true → (launch request device.select).1.result = .ok ()) ∧
      (ran = false → ∃ fault, (launch request device.select).1.result = .error (.execution fault))
  unfold launch
  cases checked : checkLaunch request device.select with
  | error cause after => exact .inl ⟨cause, rfl, checkLaunch_refuses checked, rfl⟩
  | ok _ after =>
    rw [checked] at same
    obtain rfl : after = device.select := same
    right
    simp only
    cases device.select.switches.launchFault with
    | some fault => exact ⟨false, rfl, nofun, fun _ => ⟨fault, rfl⟩⟩
    | none => exact ⟨true, rfl, fun _ => rfl, nofun⟩

end SimulatedDevice

namespace Host

variable {host before after : Host SimulatedDevice} {stages : List Stage} {context : ContextHandle}

/-! ### Traces of launches -/

/-- A launch that a device was given, after the stages, and what its collectors were told. -/
structure Delivery (stages : List Stage) (before : Host SimulatedDevice)
    (result : Except HostError Answer) (after : Host SimulatedDevice) (line : Queue)
    (request : LaunchRequest) (device : SimulatedDevice) : Prop where
  ended : result = launchResult request.kernel (launchSelected request device).1.result
  /-- The launch has the collectors that are due in the context of its queue. -/
  collectors : request.collectors = due line.context stages
  /-- Every collector takes what the device tells it, while the host counts as executing. -/
  recorded : ∀ collector, after.recorder collector = (before.recorder collector).observeAll true
    (told collector (launchSelected request device).1.signals)
  /-- A collector that was never attached to the context is told nothing. -/
  stranger : ∀ collector, (∀ stage ∈ stages, ∀ persistence,
    stage.attached? line.context persistence ≠ some collector) →
      told collector (launchSelected request device).1.signals = []
  /-- If the launch succeeded or the kernel failed, a collector that is listed once is told how the
  launch began and how it ended. -/
  traced : (∀ cause, result ≠ .error (.device cause)) → ∀ collector,
    (due line.context stages).count collector = 1 →
      told collector (launchSelected request device).1.signals =
        traceOf (request.summary device.properties.name) result.isOk

/-- A device tells nothing to a collector that the launch does not list. -/
theorem told_of_not_mem {request : LaunchRequest} {device : SimulatedDevice}
    {collector : CollectorId} (absent : collector ∉ request.collectors) :
    told collector (launchSelected request device).1.signals = [] := by
  rcases SimulatedDevice.launchSelected_signals request device with
    ⟨cause, -, -, silent⟩ | ⟨ran, same, -, -⟩
  · rw [silent]
    rfl
  · exact (told_signals _ ran same).1 (List.count_eq_zero.mpr absent)

/-- A device that did not refuse the launch tells a collector that is listed once all of it. -/
theorem told_of_launchResult {request : LaunchRequest} {device : SimulatedDevice}
    (ran : ∀ cause, launchResult request.kernel (launchSelected request device).1.result ≠
      .error (.device cause))
    {collector : CollectorId} (once : request.collectors.count collector = 1) :
    told collector (launchSelected request device).1.signals =
      traceOf (request.summary device.properties.name)
        (launchResult request.kernel (launchSelected request device).1.result).isOk := by
  rcases SimulatedDevice.launchSelected_signals request device with
    ⟨cause, result, other, -⟩ | ⟨good, same, succeeded, failed⟩
  · rw [result] at ran
    cases cause with
    | execution fault => exact absurd rfl (other fault)
    | _ => exact absurd rfl (ran _)
  · rw [(told_signals _ good same).2 once]
    cases good with
    | true =>
      rw [succeeded rfl]
      rfl
    | false =>
      obtain ⟨fault, result⟩ := failed rfl
      rw [result]
      rfl

/-- **Traces are delivered.** After every course the collectors of a context are those that the
calls so far say, and only launches tell collectors anything. A launch that fails with an error of
its own leaves all collectors alone. One that succeeds, or fails with an error of the device, was
given to the device with the collectors that were due; a collector of no earlier call in the context
is told nothing, and one that is listed once is told its trace. -/
theorem Course.traces_delivered (course : Course stages host) :
    (∀ context, host.attached context =
      (persistentOf context stages, oneShotOf context stages)) ∧
    (∀ call, (∀ queue kernel range waits, call ≠ .enqueueKernel queue kernel range waits) →
      ∀ collector, (step call host).2.recorder collector = host.recorder collector) ∧
    ∀ queue kernel range waits,
      (handsOver (step (.enqueueKernel queue kernel range waits) host).1 = false →
        (∃ error after, handOver queue kernel range waits host = .error error after) ∧
          host.Silent (step (.enqueueKernel queue kernel range waits) host).2) ∧
      (handsOver (step (.enqueueKernel queue kernel range waits) host).1 = true →
        ∃ line request device middle, host.registry.queues.get? queue = some line ∧
          handOver queue kernel range waits host = .ok (line.device, request) middle ∧
          middle.backend? line.device = some device ∧
          Delivery stages host (step (.enqueueKernel queue kernel range waits) host).1
            (step (.enqueueKernel queue kernel range waits) host).2 line request device) := by
  refine ⟨course.attended, fun call other collector => ?_, fun queue kernel range waits => ?_⟩
  · rw [recorder, recorder, recorders_step course.run.regular.packed.contexts other]
  · rcases step_enqueueKernel queue kernel range waits host with
      ⟨error, after, refused, ran, early, silent⟩ |
        ⟨line, entry, device, request, middle, after, hands, taken, ran, -, heard⟩
    · rw [ran]
      exact ⟨fun _ => ⟨⟨error, after, refused⟩, silent⟩, fun handed => by
        rw [handsOver, early] at handed
        cases handed⟩
    · rw [ran]
      have collectors : request.collectors = due line.context stages := by
        have stands := course.attended line.context
        rw [attached_of_some taken.there] at stands
        obtain ⟨persistent, one_shot⟩ := Prod.mk.inj stands
        rw [taken.collectors, Context.launchCollectors, persistent, one_shot, due]
      refine ⟨fun kept => ?_, fun _ => ⟨line, request, device, middle, taken.queued, hands,
        taken.found, rfl, collectors, heard, fun collector never => ?_,
        fun answered collector once => told_of_launchResult answered (collectors ▸ once)⟩⟩
      · rw [handsOver_launchResult] at kept
        cases kept
      · -- whoever is due was attached by an earlier call
        refine told_of_not_mem fun among => ?_
        rw [collectors, due, List.mem_append] at among
        rcases among with lasting | single
        · obtain ⟨stage, member, attached⟩ := mem_attachedSince lasting
          exact never stage member _ attached
        · obtain ⟨stage, member, attached⟩ := mem_attachedSince single
          exact never stage member _ attached

/-- A context with a collector for every launch and one for the next, and another context with a
collector of its own. -/
def tracing : List Call :=
  [.platformIds, .createContext [⟨0, 1⟩] false, .createContext [⟨1, 1⟩] false,
    .createQueue ⟨0, 1⟩ ⟨0, 1⟩ ⟨0⟩,
    .createProgram ⟨0, 1⟩ ["\x7b\"kernels\":[\x7b\"name\":\"k\",\"params\":[\x7b\"type\":" ++
      "\x7b\"kind\":\"scalar\",\"type\":\"u32\"\x7d\x7d]\x7d]\x7d"],
    .buildProgram ⟨0, 1⟩ none none false, .createKernel ⟨0, 1⟩ "k",
    .setArgument ⟨0, 1⟩ 0 [1, 2, 3, 4], .addCollector ⟨0, 1⟩ ⟨0⟩ .persistent,
    .addCollector ⟨0, 1⟩ ⟨1⟩ .oneShot, .addCollector ⟨1, 1⟩ ⟨2⟩ .persistent]

/-- The launch has the two collectors of its context, and tells the third nothing. -/
theorem traces_delivered_tracing :
    ∃ line request, ∃ device : SimulatedDevice, ∃ middle,
      handOver ⟨0, 1⟩ ⟨0, 1⟩ (.ofGlobal [2]) {} (run tracing (twin 64 64)).2 =
        .ok (line, request) middle ∧
      request.collectors = [⟨0⟩, ⟨1⟩] ∧
      told ⟨0⟩ (launchSelected request device).1.signals =
        traceOf (request.summary device.properties.name) true ∧
      told ⟨1⟩ (launchSelected request device).1.signals =
        traceOf (request.summary device.properties.name) true ∧
      told ⟨2⟩ (launchSelected request device).1.signals = [] := by
  have succeeds : (step (.enqueueKernel ⟨0, 1⟩ ⟨0, 1⟩ (.ofGlobal [2]) {})
      (run tracing (twin 64 64)).2).1.isOk = true := by decide +kernel
  have placed : ((run tracing (twin 64 64)).2.registry.queues.get? ⟨0, 1⟩).map Queue.context =
      some ⟨0, 1⟩ := by decide +kernel
  have listed : due ⟨0, 1⟩ (stagesOf tracing (twin 64 64)) = [⟨0⟩, ⟨1⟩] := by decide +kernel
  have never : (stagesOf tracing (twin 64 64)).all (fun stage =>
      stage.attached? ⟨0, 1⟩ .persistent != some ⟨2⟩ &&
        stage.attached? ⟨0, 1⟩ .oneShot != some ⟨2⟩) = true := by decide +kernel
  cases outcome : (step (.enqueueKernel ⟨0, 1⟩ ⟨0, 1⟩ (.ofGlobal [2]) {})
      (run tracing (twin 64 64)).2).1 with
  | error error =>
    rw [outcome] at succeeds
    cases succeeds
  | ok answer =>
    obtain ⟨line, request, device, middle, queued, hands, -, delivery⟩ :=
      ((course_twin 64 64 tracing).traces_delivered.2.2 ⟨0, 1⟩ ⟨0, 1⟩ (.ofGlobal [2]) {}).2
        (by rw [outcome]; rfl)
    have here : line.context = ⟨0, 1⟩ := by simpa [queued] using placed
    have collectors : request.collectors = [⟨0⟩, ⟨1⟩] := by
      rw [delivery.collectors, here, listed]
    have traced := delivery.traced (by rw [outcome]; exact nofun)
    rw [here, listed, outcome] at traced
    refine ⟨line.device, request, device, middle, hands, collectors, traced ⟨0⟩ (by decide),
      traced ⟨1⟩ (by decide), delivery.stranger ⟨2⟩ fun stage among persistence => ?_⟩
    have differs := List.all_eq_true.mp never stage among
    rw [here]
    cases persistence <;> simp_all

end Host

end ComputeHost
