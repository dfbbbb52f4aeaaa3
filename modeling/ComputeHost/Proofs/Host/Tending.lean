/-
**Actions that change nothing of the references.**

Most of what a call does changes nothing that objects refer to each other by, and looks up handles
that objects hold. Where references are intact none of these look-ups fails, so a handle is refused
only if the caller gave it.

* `Call.named`, `Answer.named` — the handles that a call is given and those that it gives.
* `Tends` — an action that changes nothing of the references and fails fairly; closed under
  sequences.
* `tends_buildProgram`, `tends_enqueueKernel`, `tends_migrateDevice` and their kin — calls that
  make no object.
-/

import ComputeHost.Proofs.Host.Integrity
import ComputeHost.Proofs.Host.Migrating
import ComputeHost.Proofs.Host.Refusal
import ComputeHost.Proofs.Host.Making

set_option linter.unusedSectionVars false

namespace ComputeHost

/-- A handle of any kind. -/
abbrev AnyHandle := (kind : ObjectKind) × Handle kind

/-- The handles that a call is given. -/
def Call.named : Call → List AnyHandle
  | .platformInfo platform _ | .deviceIds platform _ => [⟨.platform, platform⟩]
  | .deviceInfo device _ => [⟨.device, device⟩]
  | .createContext devices _ => devices.map fun device => ⟨.device, device⟩
  | .contextInfo context _ | .addCollector context _ _ | .clearCollectors context
  | .createProgram context _ | .createBuffer context _ => [⟨.context, context⟩]
  | .createQueue context device _ => [⟨.context, context⟩, ⟨.device, device⟩]
  | .queueInfo queue _ | .finish queue | .flush queue => [⟨.queue, queue⟩]
  | .buildProgram program devices _ _ =>
    ⟨.program, program⟩ :: (devices.getD []).map fun device => ⟨.device, device⟩
  | .programInfo program _ | .createKernel program _ => [⟨.program, program⟩]
  | .setArgument kernel _ _ | .kernelInfo kernel _ => [⟨.kernel, kernel⟩]
  | .bufferInfo buffer _ => [⟨.buffer, buffer⟩]
  | .writeBuffer transfer _ | .readBuffer transfer _ =>
    [⟨.queue, transfer.queue⟩, ⟨.buffer, transfer.buffer⟩]
  | .enqueueKernel queue kernel _ _ => [⟨.queue, queue⟩, ⟨.kernel, kernel⟩]
  | .migrateDevice source target => [⟨.device, source⟩, ⟨.device, target⟩]
  | .platformIds | .registerModule .. | .unregisterModule _ | .setOptimization _
  | .isExecuting => []

/-- The handles in an answer to a query. -/
def InfoValue.named : InfoValue → List AnyHandle
  | .platform handle => [⟨.platform, handle⟩]
  | .device handle => [⟨.device, handle⟩]
  | .devices handles => handles.map fun handle => ⟨.device, handle⟩
  | .context handle => [⟨.context, handle⟩]
  | .program handle => [⟨.program, handle⟩]
  | _ => []

/-- The handles in an answer. -/
def Answer.named : Answer → List AnyHandle
  | .handle made => [⟨_, made⟩]
  | .handles found => found.map fun each => ⟨_, each⟩
  | .info value => value.named
  | _ => []

/-- The handle of a kind that was made, if the answer is one. -/
def Answer.made? (kind : ObjectKind) : Answer → Option (Handle kind)
  | .handle made => Registry.as? made kind
  | _ => none

/-- Where a handle is refused, the kind is excused. -/
def HostError.Excused (excuse : ObjectKind → Prop) (error : HostError) : Prop :=
  ∀ kind, error = .invalidHandle kind → excuse kind

theorem HostError.excused_of_looksUp {excuse : ObjectKind → Prop} {error : HostError}
    (own : error.looksUp = false) : error.Excused excuse := by
  rintro kind rfl
  cases own

namespace Host

open ComputeHost.Action

variable {δ α β : Type} {host before after : Host δ} {excuse : ObjectKind → Prop}

/-- A check that looks nothing up. -/
theorem excused_of_refuses {check : Except HostError α}
    (refuses : Refuses (fun error => error.looksUp = false) check) :
    Refuses (HostError.Excused excuse) check :=
  refuses.imp fun _ => HostError.excused_of_looksUp

/-- A handle that is live is not refused. -/
theorem excused_live {kind : ObjectKind} {arena : Arena kind α} {handle : Handle kind}
    (live : arena.contains handle = true) :
    Refuses (HostError.Excused excuse) (arena.checked handle) :=
  .checked fun absent => by rw [live] at absent; cases absent

/-- A handle of an excused kind may be refused. -/
theorem excused_checked {kind : ObjectKind} {arena : Arena kind α} {handle : Handle kind}
    (excused : arena.contains handle = false → excuse kind) :
    Refuses (HostError.Excused excuse) (arena.checked handle) :=
  .checked fun absent other same => by cases same; exact excused absent

/-! ### Actions that change nothing of the references -/

/-- The action changes nothing that objects refer to each other by, and fails fairly. -/
structure Tends (excuse : ObjectKind → Prop) (action : HostAction δ α) (host : Host δ) : Prop where
  aside : host.registry.Aside (final (action host)).registry
  excused : ∀ error after, action host = .error error after → error.Excused excuse

namespace Tends

variable {first : HostAction δ α} {rest : α → HostAction δ β}

theorem pure (value : α) : Tends excuse (Pure.pure value : HostAction δ α) host :=
  ⟨.refl _, fun _ _ fails => nomatch fails⟩

theorem throw {error : HostError} (excused : error.Excused excuse) :
    Tends excuse (MonadExcept.throw error : HostAction δ α) host :=
  ⟨.refl _, by rintro _ _ ⟨⟩; exact excused⟩

theorem get : Tends excuse (MonadState.get : HostAction δ (Host δ)) host :=
  ⟨.refl _, fun _ _ fails => nomatch fails⟩

/-- A change of the host that is none of its references. -/
theorem modify {change : Host δ → Host δ} (aside : host.registry.Aside (change host).registry) :
    Tends excuse (modify change : HostAction δ PUnit) host :=
  ⟨aside, fun _ _ fails => nomatch fails⟩

theorem register {change : Registry δ → α × Registry δ}
    (aside : host.registry.Aside (change host.registry).2) :
    Tends excuse (register change : HostAction δ α) host :=
  ⟨aside, fun _ _ fails => nomatch fails⟩

theorem check {look : Host δ → Except HostError α}
    (refuses : Refuses (HostError.Excused excuse) (look host)) :
    Tends excuse (Host.check look) host := by
  cases passes : look host with
  | ok value =>
    have ran := check_of_ok passes
    exact ⟨ran ▸ .refl _, fun error after fails => by rw [ran] at fails; cases fails⟩
  | error error =>
    have ran := check_of_error passes
    refine ⟨ran ▸ .refl _, fun error after fails => ?_⟩
    exact refuses error (check_eq_error_iff.mp fails).1

/-- **Actions in sequence.** The second starts from a host with the same references. -/
theorem bind (begins : Tends excuse first host)
    (goes : ∀ value middle, first host = .ok value middle →
      host.registry.Aside middle.registry → Tends excuse (rest value) middle) :
    Tends excuse (first >>= rest) host := by
  have aside := begins.aside
  cases outcome : first host with
  | ok value middle =>
    rw [outcome] at aside
    have tends := goes value middle outcome aside
    refine ⟨?_, ?_⟩ <;> rw [bind_of_ok outcome]
    · exact aside.trans tends.aside
    · exact tends.excused
  | error error after =>
    have excused := begins.excused
    rw [outcome] at aside
    refine ⟨?_, ?_⟩ <;> rw [bind_of_error outcome]
    · exact aside
    · rw [outcome] at excused
      rintro _ _ ⟨⟩
      exact excused error after rfl

theorem map {give : α → β} (tends : Tends excuse first host) :
    Tends excuse (give <$> first) host := by
  have aside := tends.aside
  cases outcome : first host with
  | ok value after =>
    have ran : (give <$> first) host = .ok (give value) after := map_of_ok outcome
    rw [outcome] at aside
    exact ⟨ran ▸ aside, fun _ _ fails => by rw [ran] at fails; cases fails⟩
  | error error after =>
    have ran : (give <$> first) host = .error error after := map_of_error outcome
    rw [outcome] at aside
    refine ⟨ran ▸ aside, fun _ _ fails => ?_⟩
    rw [ran] at fails
    cases fails
    exact tends.excused error after outcome

/-- What fails does not matter, but for what it leaves. -/
theorem attempt {action : HostAction δ Unit} (tends : Tends excuse action host) :
    Tends excuse (Host.attempt action) host := by
  have aside := tends.aside
  unfold Host.attempt
  constructor <;> cases outcome : action host <;> rw [outcome] at aside
  · exact aside
  · exact aside
  · exact fun _ _ fails => nomatch fails
  · exact fun _ _ fails => nomatch fails

/-- Replacing the device behind a handle. -/
theorem aside_setBackend (host : Host δ) (handle : DeviceHandle) (backend : δ) :
    host.registry.Aside (host.setBackend handle backend).registry :=
  { Registry.Aside.refl host.registry with
    devices := faces_setBackend host handle backend }

end Tends

/-! ### Parts of calls -/

/-- Devices that are live stay live. -/
theorem live_of_aside {devices : List DeviceHandle} (aside : before.registry.Aside after.registry)
    (live : ∀ device ∈ devices, before.registry.devices.contains device = true) :
    ∀ device ∈ devices, after.registry.devices.contains device = true :=
  fun device among => (Arena.contains_of_faces aside.devices device).trans (live device among)

theorem tends_changeContext {handle : ContextHandle} {change : Context → Context}
    (same : ∀ context, (change context).clearCollectors = context.clearCollectors)
    (excused : host.registry.contexts.contains handle = false → excuse .context) :
    Tends excuse (changeContext handle change) host := by
  unfold changeContext
  rw [discard_check]
  refine (Tends.check (excused_checked excused).discard).bind fun _ middle _ _ => ?_
  exact .register { Registry.Aside.refl middle.registry with
    contexts := Arena.faces_modify same _ _ }

theorem tends_changeKernel {handle : KernelHandle} {change : Kernel → Kernel}
    (same : ∀ kernel, Registry.kernelTies (change kernel) = Registry.kernelTies kernel) :
    Tends excuse (changeKernel handle change) host :=
  .register { Registry.Aside.refl host.registry with kernels := Arena.faces_modify same _ _ }

theorem tends_setModules (modules : ModuleTable) : Tends excuse (setModules modules) host :=
  .modify (.refl host.registry)

theorem tends_registerModule (name source : String) :
    Tends excuse (registerModule name source) host :=
  (Tends.check (excused_of_refuses (ModuleTable.register_refuses _ _ _))).bind
    fun _ _ _ _ => tends_setModules _

theorem excused_programModule (program : Program) :
    Refuses (HostError.Excused excuse) (host.programModule program) := by
  unfold programModule
  split
  · exact .ok _
  · exact .of_error nofun

theorem registry_tellAll (host : Host δ) (signals : List (CollectorId × Signal)) :
    (host.tellAll signals).registry = host.registry := by
  unfold tellAll
  induction signals generalizing host with
  | nil => rfl
  | cons signal rest ih => exact ih _

section

variable [DeviceDriver δ]

theorem tends_onDevice {handle : DeviceHandle} {lift : DeviceError → HostError}
    {action : DeviceAction δ α} (live : host.registry.devices.contains handle = true)
    (own : ∀ cause kind, lift cause ≠ .invalidHandle kind) :
    Tends excuse (onDevice handle lift action) host := by
  obtain ⟨device, found⟩ := Arena.contains_iff.mp live
  have there : host.backend? handle = some device.backend := by simp [backend?, found]
  cases outcome : DeviceDriver.selected action device.backend with
  | ok value changed =>
    have ran : onDevice handle lift action host = .ok value (host.setBackend handle changed) :=
      onDevice_of_ok there outcome
    refine ⟨ran ▸ Tends.aside_setBackend host handle changed, fun _ _ fails => ?_⟩
    rw [ran] at fails
    cases fails
  | error cause changed =>
    have ran : onDevice handle lift action host =
        .error (lift cause) (host.setBackend handle changed) := onDevice_of_error there outcome
    refine ⟨ran ▸ Tends.aside_setBackend host handle changed, fun _ _ fails => ?_⟩
    rw [ran] at fails
    cases fails
    exact fun kind same => absurd same (own cause kind)

/-! ### Modules and builds -/

theorem tends_unloadFrom (name : String) {devices : List DeviceHandle}
    (live : ∀ device ∈ devices, host.registry.devices.contains device = true) :
    Tends excuse (unloadFrom name devices) host := by
  induction devices generalizing host with
  | nil => exact .pure _
  | cons device rest ih =>
    refine (tends_onDevice (live device List.mem_cons_self) (by simp)).bind fun _ _ _ aside => ?_
    exact ih (live_of_aside aside fun other among => live other (List.mem_cons_of_mem _ among))

/-- Modules are unloaded from the devices that are listed, and these are live. -/
theorem tends_unregisterModule (packed : host.registry.Packed) (name : String) :
    Tends excuse (unregisterModule name) host := by
  refine Tends.get.bind fun _ middle got _ => ?_
  cases got
  have onward : Tends excuse (unloadFrom name host.registry.devices.handles >>= fun _ =>
      (do setModules ((← MonadState.get).modules.remove name) : HostAction δ Unit)) host := by
    refine (tends_unloadFrom name fun device among =>
      packed.devices.contains_of_mem_handles among).bind fun _ _ _ _ => ?_
    exact Tends.get.bind fun _ _ _ _ => tends_setModules _
  split
  · exact (Tends.throw nofun).bind fun _ _ fails => nomatch fails
  · exact onward

theorem tends_loadOn (name : String) {device : DeviceHandle}
    (live : host.registry.devices.contains device = true) :
    Tends excuse (loadOn name device) host := by
  refine Tends.get.bind fun _ middle got _ => ?_
  cases got
  split
  · exact .throw nofun
  · split
    · refine (tends_onDevice live (by simp)).bind fun _ _ _ _ => ?_
      exact Tends.get.bind fun _ _ _ _ => tends_setModules _
    · exact .pure _

theorem tends_loadOnAll (packed : host.registry.Packed) (name : String)
    {devices : List DeviceHandle}
    (live : ∀ device ∈ devices, host.registry.devices.contains device = true) :
    Tends excuse (loadOnAll name devices) host := by
  induction devices generalizing host with
  | nil => exact .pure _
  | cons device rest ih =>
    have loads : Tends excuse (loadOn name device) host :=
      tends_loadOn name (live device List.mem_cons_self)
    have aside := loads.aside
    cases outcome : loadOn name device host with
    | ok _ middle =>
      rw [outcome] at aside
      have ran : loadOnAll name (device :: rest) host = loadOnAll name rest middle := by
        simp only [loadOnAll, outcome]
      have onward := ih (packed.aside aside)
        (live_of_aside aside fun other among => live other (List.mem_cons_of_mem _ among))
      exact ⟨ran ▸ aside.trans onward.aside, ran ▸ onward.excused⟩
    | error error middle =>
      rw [outcome] at aside
      have removes : Tends excuse (attempt (unregisterModule name)) middle :=
        (tends_unregisterModule (packed.aside aside) name).attempt
      have gives : loadOnAll name (device :: rest) host =
          .error error (final (attempt (unregisterModule name) middle)) := by
        cases ending : attempt (unregisterModule name) middle <;>
          simp only [loadOnAll, outcome, ending, final]
      refine ⟨gives ▸ aside.trans removes.aside, fun _ _ fails => ?_⟩
      rw [gives] at fails
      cases fails
      exact loads.excused error middle outcome

theorem excused_checkTargets (context : Context) {devices : List DeviceHandle}
    (excused : ∀ device ∈ devices, host.registry.devices.contains device = false →
      excuse .device) :
    Refuses (HostError.Excused excuse) (host.checkTargets context devices) := by
  induction devices with
  | nil => exact .ok _
  | cons device rest ih =>
    refine (excused_checked (excused device List.mem_cons_self)).discard.bind fun _ _ => ?_
    exact .refuse nofun (ih fun other among => excused other (List.mem_cons_of_mem _ among))

theorem checkTargets_eq_ok {context : Context} {devices : List DeviceHandle}
    (passes : host.checkTargets context devices = .ok ()) :
    ∀ device ∈ devices, host.registry.devices.contains device = true := by
  induction devices with
  | nil => exact List.forall_mem_nil _
  | cons device rest ih =>
    unfold checkTargets at passes
    simp only [except_bind_eq_ok_iff, discard_eq_ok_iff, refuse_eq_ok_iff,
      Arena.checked_eq_ok_iff] at passes
    obtain ⟨_, ⟨entry, live⟩, _, passes⟩ := passes
    exact List.forall_mem_cons.mpr ⟨Arena.contains_iff.mpr ⟨entry, live⟩, ih passes⟩

/-- A build is refused for a handle only if the caller gave it, and what it is for is live. -/
theorem excused_checkBuild (intact : host.registry.Intact) {handle : ProgramHandle}
    {devices : Option (List DeviceHandle)} (options : Option String) (notify : Bool)
    (excused : host.registry.programs.contains handle = false → excuse .program)
    (excused' : ∀ device ∈ devices.getD [], host.registry.devices.contains device = false →
      excuse .device) :
    Refuses (HostError.Excused excuse) (checkBuild handle devices options notify host) ∧
      ∀ program targets, checkBuild handle devices options notify host = .ok (program, targets) →
        ∀ device ∈ targets, host.registry.devices.contains device = true := by
  constructor
  · refine (excused_checked excused).bind fun program found => ?_
    have there := Arena.checked_eq_ok_iff.mp found
    refine (excused_live (intact.programs.live_of_get? there)).bind fun context _ => ?_
    refine Refuses.bind ?_ fun targets _ => .refuse nofun (.refuse nofun (.ok _))
    unfold buildTargets
    split
    · exact .ok _
    · exact .of_error nofun
    · exact (excused_checkTargets context excused').bind fun _ _ => .ok _
  · intro program targets passes
    unfold checkBuild at passes
    simp only [except_bind_eq_ok_iff, refuse_eq_ok_iff, Arena.checked_eq_ok_iff] at passes
    obtain ⟨_, _, context, there, found, given, _, _, same⟩ := passes
    cases same
    unfold buildTargets at given
    split at given
    · cases given
      exact (intact.contexts _ context there).2.2
    · cases given
    · simp only [except_bind_eq_ok_iff] at given
      obtain ⟨⟨⟩, passes, same⟩ := given
      cases same
      exact checkTargets_eq_ok passes

theorem tends_buildProgram (intact : host.registry.Intact) (packed : host.registry.Packed)
    {handle : ProgramHandle} {devices : Option (List DeviceHandle)} {options : Option String}
    {notify : Bool} (excused : host.registry.programs.contains handle = false → excuse .program)
    (excused' : ∀ device ∈ devices.getD [], host.registry.devices.contains device = false →
      excuse .device) :
    Tends excuse (buildProgram handle devices options notify) host := by
  obtain ⟨refuses, targets_live⟩ :=
    excused_checkBuild intact options notify excused excused'
  refine (Tends.check refuses).bind fun (program, targets) middle passed _ => ?_
  obtain ⟨passes, rfl⟩ := check_eq_ok_iff.mp passed
  have live := targets_live program targets passes
  simp only
  split
  · refine Tends.get.bind fun _ _ got _ => ?_
    cases got
    refine (Tends.modify (.refl middle.registry)).bind fun _ _ _ numbered => ?_
    refine (tends_registerModule _ _).bind fun _ _ _ registered => ?_
    have aside := numbered.trans registered
    refine (tends_loadOnAll (packed.aside aside) _ (live_of_aside aside live)).bind
      fun _ after _ _ => ?_
    exact .register { Registry.Aside.refl after.registry with
      programs := Arena.faces_modify (by simp [Registry.programTies]) _ _ }
  · exact .pure _

/-! ### Kernels and launches -/

theorem excused_launchModule (program : Program) (device : DeviceHandle) :
    Refuses (HostError.Excused excuse) (host.launchModule program device) := by
  unfold launchModule
  split
  · exact .ok _
  · exact .of_error nofun

theorem excused_checkLaunch {queue : QueueHandle} {kernel : KernelHandle} {range : LaunchRange}
    {waits : WaitList} (excused : host.registry.queues.contains queue = false → excuse .queue)
    (excused' : host.registry.kernels.contains kernel = false → excuse .kernel) :
    Refuses (HostError.Excused excuse) (checkLaunch queue kernel range waits host) :=
  checkLaunch_refuses range waits (fun _ => HostError.excused_of_looksUp)
    (fun absent _ same => by cases same; exact excused absent)
    fun absent _ same => by cases same; exact excused' absent

/-- The program of a kernel and the device of a queue are live. -/
theorem excused_launchRequest (intact : host.registry.Intact) {queue : Queue}
    (live : host.registry.devices.contains queue.device = true) {handle : KernelHandle}
    {geometry : Geometry}
    (excused : host.registry.kernels.contains handle = false → excuse .kernel) :
    Refuses (HostError.Excused excuse) (launchRequest queue handle geometry host) := by
  refine (excused_checked excused).bind fun kernel found => ?_
  have there := Arena.checked_eq_ok_iff.mp found
  refine (excused_live (intact.kernels.live_of_get? there)).bind fun program _ => ?_
  refine (excused_launchModule program _).bind fun module _ => ?_
  split
  · exact .of_error nofun
  · refine (excused_live live).bind fun device _ => ?_
    exact (excused_of_refuses (Binding.block_refuses _ _ _)).bind fun _ _ => .ok _

theorem tends_takeCollectors {context : ContextHandle}
    (live : host.registry.contexts.contains context = true) :
    Tends excuse (takeCollectors context) host := by
  refine (Tends.check (excused_live live)).bind fun _ middle _ _ => ?_
  exact .register { Registry.Aside.refl middle.registry with
    contexts := Arena.faces_modify (by simp [Context.clearCollectors]) _ _ }

theorem tends_dispatch {handle : DeviceHandle}
    (live : host.registry.devices.contains handle = true) (request : LaunchRequest) :
    Tends excuse (dispatch handle request) host := by
  have runs : Tends excuse (execute handle request) host := by
    obtain ⟨device, found⟩ := Arena.contains_iff.mp live
    have known := Arena.checked_eq_ok_iff.mpr found
    constructor
    · unfold execute
      rw [known]
      simp only [final, registry_tellAll]
      exact Tends.aside_setBackend { host with executing := true } handle _
    · intro error after fails
      unfold execute at fails
      rw [known] at fails
      cases fails
  refine runs.bind fun result middle _ _ => ?_
  split
  · exact .pure _
  · refine (Tends.modify (.refl middle.registry)).bind fun _ _ _ _ => .throw ?_
    exact fun _ same => by cases same
  · exact .throw fun _ same => by cases same

/-- A launch refuses handles of the caller only: those of the program, the context and the device
are found. -/
theorem tends_enqueueKernel (intact : host.registry.Intact) {queue : QueueHandle}
    {kernel : KernelHandle} {range : LaunchRange} {waits : WaitList}
    (excused : host.registry.queues.contains queue = false → excuse .queue)
    (excused' : host.registry.kernels.contains kernel = false → excuse .kernel) :
    Tends excuse (enqueueKernel queue kernel range waits) host := by
  refine (Tends.check (excused_checkLaunch excused excused')).bind
    fun (line, geometry) middle passed _ => ?_
  obtain ⟨passes, rfl⟩ := check_eq_ok_iff.mp passed
  have queued := (checkLaunch_eq_ok passes).1
  have device_live := intact.live_of_queue queued
  have context_live := intact.queues.live_of_get? queued
  simp only
  refine (tends_changeKernel (by simp [Registry.kernelTies])).bind fun _ noted _ aside => ?_
  have device_noted := (Arena.contains_of_faces aside.devices line.device).trans device_live
  refine (Tends.check (excused_launchRequest (intact.aside aside) device_noted fun absent =>
    excused' ((Arena.contains_of_faces aside.kernels kernel).symm.trans absent))).bind
      fun request _ passed _ => ?_
  obtain ⟨_, rfl⟩ := check_eq_ok_iff.mp passed
  refine (tends_takeCollectors
    ((Arena.contains_of_faces aside.contexts line.context).trans context_live)).bind
      fun collectors _ _ taken => ?_
  exact tends_dispatch ((Arena.contains_of_faces taken.devices line.device).trans device_noted) _

/-! ### Transfers and buffers -/

theorem excused_transferTarget (intact : host.registry.Intact) {transfer : Transfer} (length : Nat)
    (excused : host.registry.queues.contains transfer.queue = false → excuse .queue)
    (excused' : host.registry.buffers.contains transfer.buffer = false → excuse .buffer) :
    Refuses (HostError.Excused excuse) (transferTarget transfer length host) ∧
      ∀ device address, transferTarget transfer length host = .ok (device, address) →
        host.registry.devices.contains device = true := by
  constructor
  · refine (excused_checked excused).bind fun queue found => ?_
    have queued := Arena.checked_eq_ok_iff.mp found
    refine (excused_checked excused').bind fun buffer _ => ?_
    refine .refuse nofun (.refuse nofun ?_)
    refine (excused_of_refuses transfer.waits.check_refuses).bind fun _ _ => ?_
    refine .refuse nofun ((excused_live (intact.live_of_queue queued)).bind fun device _ => ?_)
    split
    · exact .ok _
    · exact .of_error nofun
  · intro device address passes
    unfold transferTarget at passes
    simp only [except_bind_eq_ok_iff, refuse_eq_ok_iff, Arena.checked_eq_ok_iff] at passes
    obtain ⟨queue, queued, _, _, _, _, _, _, _, _, _, passes⟩ := passes
    split at passes
    · cases passes
      exact intact.live_of_queue queued
    · cases passes

theorem tends_writeBuffer (intact : host.registry.Intact) {transfer : Transfer} {data : Bytes}
    (excused : host.registry.queues.contains transfer.queue = false → excuse .queue)
    (excused' : host.registry.buffers.contains transfer.buffer = false → excuse .buffer) :
    Tends excuse (writeBuffer transfer data) host := by
  obtain ⟨refuses, live⟩ := excused_transferTarget intact data.length excused excused'
  refine (Tends.check refuses).bind fun (device, address) _ passed _ => ?_
  obtain ⟨passes, rfl⟩ := check_eq_ok_iff.mp passed
  exact tends_onDevice (live device address passes) (by simp)

theorem tends_readBuffer (intact : host.registry.Intact) {transfer : Transfer} {length : Nat}
    (excused : host.registry.queues.contains transfer.queue = false → excuse .queue)
    (excused' : host.registry.buffers.contains transfer.buffer = false → excuse .buffer) :
    Tends excuse (readBuffer transfer length) host := by
  obtain ⟨refuses, live⟩ := excused_transferTarget intact length excused excused'
  refine (Tends.check refuses).bind fun (device, address) _ passed _ => ?_
  obtain ⟨passes, rfl⟩ := check_eq_ok_iff.mp passed
  exact (tends_onDevice (live device address passes) (by simp)).map

theorem tends_freePlaces {places : List (DeviceHandle × Address)}
    (live : ∀ place ∈ places, host.registry.devices.contains place.1 = true) :
    Tends excuse (freePlaces places) host := by
  induction places generalizing host with
  | nil => exact .pure _
  | cons place rest ih =>
    refine (tends_onDevice (live place List.mem_cons_self) (by simp)).attempt.bind
      fun _ _ _ aside => ?_
    exact ih fun other among =>
      (Arena.contains_of_faces aside.devices other.1).trans
        (live other (List.mem_cons_of_mem _ among))

theorem tends_allocatePlaces (request : BufferRequest) (initial : Option Bytes)
    {places : List (DeviceHandle × Address)} {devices : List DeviceHandle}
    (placed : ∀ place ∈ places, host.registry.devices.contains place.1 = true)
    (live : ∀ device ∈ devices, host.registry.devices.contains device = true) :
    Tends excuse (allocatePlaces request initial places devices) host := by
  induction devices generalizing host places with
  | nil => exact .pure _
  | cons device rest ih =>
    have takes : Tends excuse (onDevice device
        (fun cause => .memAllocation (host.deviceName device) cause.message)
        (allocateBuffer request.size (request.flags.contains .allocHostPtr) initial)) host :=
      tends_onDevice (live device List.mem_cons_self) (by simp)
    have aside := takes.aside
    have still : ∀ {after : Host δ}, host.registry.Aside after.registry →
        ∀ place ∈ places, after.registry.devices.contains place.1 = true :=
      fun aside place among =>
        (Arena.contains_of_faces aside.devices place.1).trans (placed place among)
    cases outcome : onDevice device
        (fun cause => .memAllocation (host.deviceName device) cause.message)
        (allocateBuffer request.size (request.flags.contains .allocHostPtr) initial) host with
    | ok address middle =>
      rw [outcome] at aside
      have ran : allocatePlaces request initial places (device :: rest) host =
          allocatePlaces request initial (places ++ [(device, address)]) rest middle := by
        simp only [allocatePlaces, outcome]
      have onward : Tends excuse
          (allocatePlaces request initial (places ++ [(device, address)]) rest) middle := by
        refine ih (fun place among => ?_)
          (live_of_aside aside fun other among => live other (List.mem_cons_of_mem _ among))
        rcases List.mem_append.mp among with old | new
        · exact still aside place old
        · rw [List.mem_singleton.mp new]
          exact (Arena.contains_of_faces aside.devices device).trans
            (live device List.mem_cons_self)
      exact ⟨ran ▸ aside.trans onward.aside, ran ▸ onward.excused⟩
    | error error middle =>
      rw [outcome] at aside
      have frees : Tends excuse (freePlaces places) middle := tends_freePlaces (still aside)
      have gives : allocatePlaces request initial places (device :: rest) host =
          .error error (final (freePlaces places middle)) := by
        cases ending : freePlaces places middle <;>
          simp only [allocatePlaces, outcome, ending, final]
      refine ⟨gives ▸ aside.trans frees.aside, fun _ _ fails => ?_⟩
      rw [gives] at fails
      cases fails
      exact takes.excused error middle outcome

end

end Host

/-! ### Migrations -/

namespace Migration

open ComputeHost.Action

variable {δ α β : Type} [DeviceDriver δ] {first : MigrationAction δ α}
  {rest : α → MigrationAction δ β}

/-- The operation on two devices knows no handles, so it refuses none. -/
def Handleless (action : MigrationAction δ α) : Prop :=
  ∀ pair error after, action pair = .error error after → ∀ kind, error ≠ .invalidHandle kind

theorem Handleless.pure (value : α) : Handleless (Pure.pure value : MigrationAction δ α) :=
  fun _ _ _ fails => nomatch fails

theorem Handleless.bind (begins : Handleless first) (goes : ∀ value, Handleless (rest value)) :
    Handleless (first >>= rest) := by
  intro pair error after fails
  rcases bind_eq_error_iff.mp fails with early | ⟨value, middle, -, late⟩
  · exact begins pair error after early
  · exact goes value middle error after late

theorem handleless_onSource (action : DeviceAction δ α) : Handleless (onSource action) := by
  intro pair error after fails
  unfold onSource at fails
  split at fails
  · cases fails
  · cases fails
    exact fun _ => nofun

theorem handleless_onTarget (action : DeviceAction δ α) : Handleless (onTarget action) := by
  intro pair error after fails
  unfold onTarget at fails
  split at fails
  · cases fails
  · cases fails
    exact fun _ => nofun

theorem handleless_sourceView (address : Address) :
    Handleless (sourceView address : MigrationAction δ Block) := by
  intro pair error after fails
  unfold sourceView at fails
  split at fails
  · cases fails
  · cases fails
    exact fun _ => nofun

theorem handleless_copyOver (allocation : Allocation) :
    Handleless (copyOver allocation : MigrationAction δ (Option Address)) := by
  unfold copyOver
  split
  · exact (handleless_onSource _).bind fun _ => (handleless_onTarget _).bind fun _ =>
      (handleless_onTarget _).bind fun _ => .pure _
  · exact (handleless_onTarget _).bind fun _ => (handleless_sourceView _).bind fun _ =>
      (handleless_onTarget _).bind fun _ => .pure _
  · exact .pure _

theorem handleless_relocate (allocations : List Allocation) :
    Handleless (relocate allocations : MigrationAction δ AddressMap) := by
  induction allocations with
  | nil => exact .pure _
  | cons allocation rest ih =>
    refine (handleless_copyOver allocation).bind fun moved => ?_
    split
    · exact ih
    · exact (handleless_onSource _).bind fun _ => ih.bind fun _ => .pure _

theorem handleless_copyGlobals (globals : List (Allocation × Allocation)) :
    Handleless (copyGlobals globals : MigrationAction δ Unit) := by
  induction globals with
  | nil => exact .pure _
  | cons pair rest ih =>
    exact (handleless_onSource _).bind fun _ => (handleless_onTarget _).bind fun _ => ih

theorem handleless_migrate (modules : List KernelModule) :
    Handleless (migrate modules : MigrationAction δ AddressMap) := by
  refine Handleless.bind (fun pair error after fails => ?_) fun globals => ?_
  · split at fails
    · cases fails
    · rename_i refused
      cases fails
      obtain ⟨reason, rfl⟩ := storagePairs_error refused
      exact fun _ => nofun
  · refine Handleless.bind (fun _ _ _ fails => nomatch fails) fun _ => ?_
    exact (handleless_relocate _).bind fun _ => (handleless_copyGlobals _).bind fun _ => .pure _

end Migration

namespace Host

open ComputeHost.Action

variable {δ : Type} [DeviceDriver δ] {host : Host δ} {excuse : ObjectKind → Prop}
  {source target : DeviceHandle}

theorem tends_migratePair (differ : source ≠ target)
    (live : host.registry.devices.contains source = true)
    (alive : host.registry.devices.contains target = true) (modules : List KernelModule) :
    Tends excuse (migratePair source target modules) host := by
  obtain ⟨one, found⟩ := Arena.contains_iff.mp live
  obtain ⟨other, found'⟩ := Arena.contains_iff.mp alive
  have pairing := Arena.getPair?_eq_some_iff.mpr ⟨differ, found, found'⟩
  have aside : ∀ pair : DevicePair δ, host.registry.Aside
      ((host.setBackend source pair.source).setBackend target pair.target).registry := fun pair =>
    (Tends.aside_setBackend host source pair.source).trans (Tends.aside_setBackend _ target _)
  unfold migratePair
  cases moves : Migration.migrate modules ⟨one.backend, other.backend⟩ with
  | ok moved pair =>
    constructor
    · simp only [pairing, moves, final]
      exact aside pair
    · intro error after fails
      simp only [pairing, moves] at fails
      cases fails
  | error cause pair =>
    constructor
    · simp only [pairing, moves, final]
      exact aside pair
    · intro error after fails
      simp only [pairing, moves] at fails
      cases fails
      exact fun kind same =>
        absurd same (Migration.handleless_migrate modules _ _ _ moves kind)

theorem relocated_context (buffer : Buffer) (moved : AddressMap) :
    (buffer.relocated source target moved).1.context = buffer.context := by
  unfold Buffer.relocated
  split
  · rfl
  · simp only
    split
    · rfl
    · split <;> rfl

theorem tends_relocateBuffers (alive : host.registry.devices.contains target = true)
    (moved : AddressMap) : Tends excuse (relocateBuffers source target moved) host := by
  refine Tends.get.bind fun _ _ got _ => ?_
  cases got
  refine Tends.bind (.register { Registry.Aside.refl host.registry with
    buffers := Arena.faces_map (relocated_context · moved) _ }) fun _ after _ aside => ?_
  split
  · have still := (Arena.contains_of_faces aside.devices target).trans alive
    exact (tends_onDevice still (by simp)).attempt
  · exact .pure _

theorem excused_checkMigration
    (excused : host.registry.devices.contains source = false → excuse .device)
    (excused' : host.registry.devices.contains target = false → excuse .device) :
    Refuses (HostError.Excused excuse) (checkMigration source target host) :=
  (excused_checked excused).discard.bind fun _ _ =>
    (excused_checked excused').discard.bind fun _ _ => .refuse_last nofun

theorem tends_migrateDevice
    (excused : host.registry.devices.contains source = false → excuse .device)
    (excused' : host.registry.devices.contains target = false → excuse .device) :
    Tends excuse (migrateDevice source target) host := by
  refine Tends.get.bind fun _ _ got _ => ?_
  cases got
  split
  · exact .pure _
  · refine (Tends.check (excused_checkMigration excused excused')).bind fun _ host passed _ => ?_
    obtain ⟨passes, rfl⟩ := check_eq_ok_iff.mp passed
    obtain ⟨differ, _, _, leave, enter⟩ := pair_of_checkMigration passes
    have live : ∀ {handle : DeviceHandle} {backend : δ}, host.backend? handle = some backend →
        host.registry.devices.contains handle = true := fun there => by
      obtain ⟨device, found, -⟩ := Option.map_eq_some_iff.mp there
      exact Arena.contains_iff.mpr ⟨device, found⟩
    refine (tends_migratePair differ (live leave) (live enter) _).bind fun moved _ _ aside => ?_
    refine (tends_relocateBuffers
      ((Arena.contains_of_faces aside.devices target).trans (live enter)) moved).bind
        fun _ _ _ _ => ?_
    exact .pure _

end Host

end ComputeHost
