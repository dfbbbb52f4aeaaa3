/-
**What calls do to the references of a host.**

A call lists the devices, files one more object, or changes nothing that objects refer to each other
by; and what it gives names live objects only.

* `Files` — an action that files one more object, or else changes nothing of the references.
* `Filed` — what a call did.
* `step_filed` — every call does one of these things.
-/

import ComputeHost.Proofs.Host.Tending

set_option linter.unusedSectionVars false

namespace ComputeHost.Host

open ComputeHost.Action

variable {δ α : Type} {host before after : Host δ} {excuse : ObjectKind → Prop} {kind : ObjectKind}

/-! ### Actions that make an object -/

/-- The action files one more object and gives its handle, or it fails fairly and changes nothing of
the references. -/
inductive Files (excuse : ObjectKind → Prop) (action : HostAction δ (Handle kind)) (host : Host δ) :
    Prop
  | failed {error : HostError} {after : Host δ} (fails : action host = .error error after)
      (aside : host.registry.Aside after.registry) (excused : error.Excused excuse)
  | filed {handle : Handle kind} {middle : Host δ} {registry : Registry δ}
      (gives : action host = .ok handle { middle with registry })
      (aside : host.registry.Aside middle.registry)
      (addition : middle.registry.Addition kind handle registry)

namespace Files

variable {first : HostAction δ α} {rest : α → HostAction δ (Handle kind)}

theorem register {change : Registry δ → Handle kind × Registry δ}
    (addition : host.registry.Addition kind (change host.registry).1 (change host.registry).2) :
    Files excuse (register change) host :=
  .filed rfl (.refl host.registry) addition

/-- What tends to the host may come first. -/
theorem bind (begins : Tends excuse first host)
    (goes : ∀ value middle, first host = .ok value middle →
      host.registry.Aside middle.registry → Files excuse (rest value) middle) :
    Files excuse (first >>= rest) host := by
  have aside := begins.aside
  cases outcome : first host with
  | error error after =>
    rw [outcome] at aside
    exact .failed (bind_of_error outcome) aside (begins.excused error after outcome)
  | ok value middle =>
    rw [outcome] at aside
    cases goes value middle outcome aside with
    | failed fails aside' excused =>
      exact .failed ((bind_of_ok outcome).trans fails) (aside.trans aside') excused
    | filed gives aside' addition =>
      exact .filed ((bind_of_ok outcome).trans gives) (aside.trans aside') addition

end Files

/-! ### The calls that make objects -/

theorem excused_checkDistinct (seen : List DeviceHandle) {devices : List DeviceHandle}
    (excused : ∀ device ∈ devices, host.registry.devices.contains device = false →
      excuse .device) :
    Refuses (HostError.Excused excuse) (host.checkDistinct seen devices) := by
  induction devices generalizing seen with
  | nil => exact .ok _
  | cons device rest ih =>
    refine (excused_checked (excused device List.mem_cons_self)).discard.bind fun _ _ => ?_
    exact .refuse nofun (ih _ fun other among => excused other (List.mem_cons_of_mem _ among))

theorem files_createContext {devices : List DeviceHandle} {notify : Bool}
    (excused : ∀ device ∈ devices, host.registry.devices.contains device = false →
      excuse .device) :
    Files excuse (createContext devices notify) host := by
  have refuses : Refuses (HostError.Excused excuse) (checkContext devices notify host) := by
    unfold checkContext
    exact .refuse nofun ((excused_checkDistinct [] excused).bind fun _ _ => .refuse_last nofun)
  refine Files.bind (Tends.check refuses) fun _ _ passed _ => ?_
  obtain ⟨passes, rfl⟩ := check_eq_ok_iff.mp passed
  unfold checkContext at passes
  simp only [refuse_eq_ok_iff, except_bind_eq_ok_iff] at passes
  obtain ⟨nonempty, _, distinct, _⟩ := passes
  obtain ⟨nodup, _, live⟩ := checkDistinct_eq_ok distinct
  refine .register (.context (by simpa using nonempty) nodup fun device among => ?_)
  simpa [backend?, Arena.contains] using live device among

theorem files_createProgram {context : ContextHandle} {sources : List String}
    (excused : host.registry.contexts.contains context = false → excuse .context) :
    Files excuse (createProgram context sources) host := by
  unfold createProgram
  rw [discard_check]
  refine Files.bind (Tends.check (excused_checked excused).discard) fun _ middle passed _ => ?_
  obtain ⟨passes, rfl⟩ := check_eq_ok_iff.mp passed
  obtain ⟨entry, found⟩ := discard_eq_ok_iff.mp passes
  have live := Arena.contains_iff.mpr ⟨entry, Arena.checked_eq_ok_iff.mp found⟩
  split
  · exact Files.bind (.throw nofun) fun _ _ fails => nomatch fails
  · exact .register (.program live rfl)

theorem files_createKernel {program : ProgramHandle} {name : String}
    (excused : host.registry.programs.contains program = false → excuse .program) :
    Files excuse (createKernel program name) host := by
  have refuses : Refuses (HostError.Excused excuse) (checkKernel program name host) := by
    refine (excused_checked excused).bind fun entry _ => ?_
    refine (excused_programModule entry).bind fun module _ => ?_
    split
    · exact .of_error nofun
    · exact .ok _
  refine Files.bind (Tends.check refuses) fun kernel _ passed _ => ?_
  obtain ⟨passes, rfl⟩ := check_eq_ok_iff.mp passed
  unfold checkKernel at passes
  simp only [except_bind_eq_ok_iff, Arena.checked_eq_ok_iff] at passes
  obtain ⟨entry, there, _, _, passes⟩ := passes
  split at passes
  · cases passes
  · cases passes
    exact .register (.kernel there rfl)

section

variable [DeviceDriver δ]

theorem files_createQueue {context : ContextHandle} {device : DeviceHandle}
    {properties : QueueProperties}
    (excused : host.registry.contexts.contains context = false → excuse .context)
    (excused' : host.registry.devices.contains device = false → excuse .device) :
    Files excuse (createQueue context device properties) host := by
  have refuses : Refuses (HostError.Excused excuse) (checkQueue context device properties host) :=
    (excused_checked excused).bind fun _ _ => (excused_checked excused').discard.bind fun _ _ =>
      .refuse nofun (.refuse nofun (.refuse nofun (.refuse_last nofun)))
  refine Files.bind (Tends.check refuses) fun _ _ passed _ => ?_
  obtain ⟨passes, rfl⟩ := check_eq_ok_iff.mp passed
  unfold checkQueue at passes
  simp only [except_bind_eq_ok_iff, refuse_eq_ok_iff, discard_eq_ok_iff, Arena.checked_eq_ok_iff]
    at passes
  obtain ⟨entry, there, _, ⟨one, live⟩, member, _⟩ := passes
  refine Files.bind (tends_onDevice (Arena.contains_iff.mpr ⟨one, live⟩) (by simp))
    fun stream middle _ aside => ?_
  obtain ⟨later, found, same⟩ := Registry.Intact.devices_of_aside aside.symm there
  refine .register (.queue found ?_)
  rw [same]
  simpa using member

/-- The devices of a context are live, so a buffer is refused for the caller's handle only. -/
theorem files_createBuffer (intact : host.registry.Intact) {context : ContextHandle}
    {request : BufferRequest}
    (excused : host.registry.contexts.contains context = false → excuse .context) :
    Files excuse (createBuffer context request) host := by
  refine Files.bind (Tends.check (excused_checked excused)) fun entry middle passed _ => ?_
  obtain ⟨found, rfl⟩ := check_eq_ok_iff.mp passed
  have there := Arena.checked_eq_ok_iff.mp found
  refine Files.bind (Tends.check (excused_of_refuses request.check_refuses))
    fun initial _ passed _ => ?_
  obtain ⟨_, rfl⟩ := check_eq_ok_iff.mp passed
  refine Files.bind (tends_allocatePlaces request initial (List.forall_mem_nil _)
    (intact.contexts _ entry there).2.2) fun places _ _ aside => ?_
  refine .register (.buffer ?_)
  exact (Arena.contains_of_faces aside.contexts context).trans
    (Arena.contains_iff.mpr ⟨entry, there⟩)

end

/-! ### What a call did -/

/-- A handle of the kind that the call was given is not live. -/
def Excuses (host : Host δ) (call : Call) (kind : ObjectKind) : Prop :=
  ∃ handle : Handle kind, ⟨kind, handle⟩ ∈ call.named ∧ host.registry.isLive handle = false

/-- The answer gives live handles and none of a new object. -/
structure Plain (host : Host δ) (answer : Answer) : Prop where
  made : ∀ kind, answer.made? kind = none
  live : ∀ handle ∈ answer.named, host.registry.isLive handle.2 = true

/-- What a call did to the references of a host, by its result. -/
inductive Filed (before : Host δ) (call : Call) : Except HostError Answer → Host δ → Prop
  | aside {result : Except HostError Answer} {after : Host δ}
      (aside : before.registry.Aside after.registry)
      (excused : ∀ error, result = .error error → error.Excused (before.Excuses call))
      (plain : ∀ answer, result = .ok answer → before.Plain answer) :
      Filed before call result after
  | listed (unlisted : before.isEnumerated = false) :
      Filed before call (.ok (.handles (before.enumerate.registry.platforms.handles.take 1)))
        before.enumerate
  | added {middle : Host δ} {kind : ObjectKind} {handle : Handle kind} {registry : Registry δ}
      (aside : before.registry.Aside middle.registry)
      (addition : middle.registry.Addition kind handle registry) :
      Filed before call (.ok (.handle handle)) { middle with registry }

section

variable [DeviceDriver δ] {call : Call} {action : HostAction δ α}

/-- A call that only looks answers what it sees, and leaves the host as it is. -/
theorem step_of_look {give : α → Answer} {look : Host δ → Except HostError α}
    (same : perform call = give <$> check look) :
    step call host = (give <$> look host, host) := by
  unfold step
  rw [same]
  cases seen : look host with
  | ok value =>
    rw [map_of_ok (check_of_ok seen)]
    rfl
  | error error =>
    rw [map_of_error (check_of_error seen)]
    rfl

/-- A call that makes nothing. -/
theorem filed_of_tends (give : α → Answer) (same : perform call = give <$> action)
    (tends : Tends (before.Excuses call) action before)
    (plain : ∀ value after, action before = .ok value after → before.Plain (give value)) :
    Filed before call (step call before).1 (step call before).2 := by
  have aside := tends.aside
  unfold step
  rw [same]
  cases outcome : action before with
  | ok value after =>
    rw [outcome] at aside
    rw [map_of_ok outcome]
    refine .aside aside (fun _ fails => nomatch fails) ?_
    rintro _ ⟨⟩
    exact plain value after outcome
  | error error after =>
    rw [outcome] at aside
    rw [map_of_error outcome]
    refine .aside aside ?_ (fun _ done => nomatch done)
    rintro _ ⟨⟩
    exact tends.excused error after outcome

/-- A call that gives nothing. -/
theorem filed_quietly {action : HostAction δ Unit} (same : perform call = quietly action)
    (tends : Tends (before.Excuses call) action before) :
    Filed before call (step call before).1 (step call before).2 := by
  refine filed_of_tends (fun _ => .nothing) (same.trans ?_) tends fun _ _ _ =>
    ⟨fun _ => rfl, List.forall_mem_nil _⟩
  funext host
  unfold quietly
  cases outcome : action host with
  | ok _ after =>
    rw [bind_of_ok outcome, map_of_ok outcome]
    rfl
  | error error after => rw [bind_of_error outcome, map_of_error outcome]

/-- A call that asks. -/
theorem filed_info {look : Host δ → Except HostError InfoValue}
    (same : perform call = Answer.info <$> check look)
    (refuses : Refuses (HostError.Excused (before.Excuses call)) (look before))
    (live : ∀ value, look before = .ok value →
      ∀ handle ∈ value.named, before.registry.isLive handle.2 = true) :
    Filed before call (step call before).1 (step call before).2 :=
  filed_of_tends .info same (.check refuses) fun value _ passed =>
    ⟨fun _ => rfl, live value (check_eq_ok_iff.mp passed).1⟩

/-- A call that makes an object. -/
theorem filed_of_files {kind : ObjectKind} {action : HostAction δ (Handle kind)}
    (same : perform call = Answer.handle <$> action)
    (files : Files (before.Excuses call) action before) :
    Filed before call (step call before).1 (step call before).2 := by
  unfold step
  rw [same]
  cases files with
  | failed fails aside excused =>
    rw [map_of_error fails]
    refine .aside aside ?_ (fun _ done => nomatch done)
    rintro _ ⟨⟩
    exact excused
  | filed gives aside addition =>
    rw [map_of_ok gives]
    exact .added aside addition

end

/-! ### What queries give -/

section

variable [DeviceDriver δ]

/-- The platform of a device is live. -/
theorem live_platform (intact : host.registry.Intact) (packed : host.registry.Packed)
    {handle : DeviceHandle} {device : Device δ}
    (found : host.registry.devices.get? handle = some device) :
    host.registry.platforms.contains device.platform = true := by
  rcases intact.platform with ⟨-, no_devices⟩ | ⟨-, platform, entry, listed, -, named⟩
  · rw [no_devices] at found
    cases found
  · rw [named device (Arena.mem_objects_of_get? found)]
    refine packed.platforms.contains_of_mem_handles ?_
    rw [Arena.handles, listed]
    exact List.mem_cons_self

theorem named_deviceInfo (intact : host.registry.Intact) (packed : host.registry.Packed)
    {handle : DeviceHandle} {query : DeviceQuery} {value : InfoValue}
    (asked : (do return (← host.registry.devices.checked handle).info query) = Except.ok value) :
    ∀ named ∈ value.named, host.registry.isLive named.2 = true := by
  obtain ⟨device, found, same⟩ := except_bind_eq_ok_iff.mp asked
  cases same
  have live := live_platform intact packed (Arena.checked_eq_ok_iff.mp found)
  cases query with
  | platform => exact List.forall_mem_singleton.mpr live
  | _ => exact List.forall_mem_nil _

theorem named_contextInfo (intact : host.registry.Intact) {handle : ContextHandle}
    {query : ContextQuery} {value : InfoValue}
    (asked : (do return (← host.registry.contexts.checked handle).info query) = Except.ok value) :
    ∀ named ∈ value.named, host.registry.isLive named.2 = true := by
  obtain ⟨context, found, same⟩ := except_bind_eq_ok_iff.mp asked
  cases same
  have live := (intact.contexts _ context (Arena.checked_eq_ok_iff.mp found)).2.2
  cases query with
  | devices => exact List.forall_mem_map.mpr live
  | _ => exact List.forall_mem_nil _

theorem named_queueInfo (intact : host.registry.Intact) {handle : QueueHandle}
    {query : QueueQuery} {value : InfoValue}
    (asked : (do return (← host.registry.queues.checked handle).info query) = Except.ok value) :
    ∀ named ∈ value.named, host.registry.isLive named.2 = true := by
  obtain ⟨queue, found, same⟩ := except_bind_eq_ok_iff.mp asked
  cases same
  have queued := Arena.checked_eq_ok_iff.mp found
  cases query with
  | context => exact List.forall_mem_singleton.mpr (intact.queues.live_of_get? queued)
  | device => exact List.forall_mem_singleton.mpr (intact.live_of_queue queued)
  | properties => exact List.forall_mem_nil _

theorem named_bufferInfo (intact : host.registry.Intact) {handle : BufferHandle}
    {query : BufferQuery} {value : InfoValue}
    (asked : (do return (← host.registry.buffers.checked handle).info query) = Except.ok value) :
    ∀ named ∈ value.named, host.registry.isLive named.2 = true := by
  obtain ⟨buffer, found, same⟩ := except_bind_eq_ok_iff.mp asked
  cases same
  have live := intact.buffers.live_of_get? (Arena.checked_eq_ok_iff.mp found)
  cases query with
  | context => exact List.forall_mem_singleton.mpr live
  | _ => exact List.forall_mem_nil _

theorem named_kernelInfo (intact : host.registry.Intact) {handle : KernelHandle}
    {query : KernelQuery} {value : InfoValue}
    (asked : (do return (← host.registry.kernels.checked handle).info query) = Except.ok value) :
    ∀ named ∈ value.named, host.registry.isLive named.2 = true := by
  obtain ⟨kernel, found, same⟩ := except_bind_eq_ok_iff.mp asked
  cases same
  have known := Arena.checked_eq_ok_iff.mp found
  obtain ⟨program, there, within⟩ := intact.kernelContext kernel (Arena.mem_objects_of_get? known)
  cases query with
  | program => exact List.forall_mem_singleton.mpr (intact.kernels.live_of_get? known)
  | context =>
    have live := intact.programs.live_of_get? there
    rw [← within] at live
    exact List.forall_mem_singleton.mpr live
  | _ => exact List.forall_mem_nil _

/-- What a program gives is its context, or the devices of that. -/
theorem named_askProgram (intact : host.registry.Intact) {handle : ProgramHandle}
    {query : ProgramQuery} {value : InfoValue} (asked : askProgram handle query host = .ok value) :
    ∀ named ∈ value.named, host.registry.isLive named.2 = true := by
  unfold askProgram at asked
  simp only [except_bind_eq_ok_iff, Arena.checked_eq_ok_iff] at asked
  obtain ⟨program, there, context, found, asked⟩ := asked
  have live := intact.programs.live_of_get? there
  have devices := (intact.contexts _ context found).2.2
  cases query with
  | context =>
    cases asked
    exact List.forall_mem_singleton.mpr live
  | devices =>
    cases asked
    exact List.forall_mem_map.mpr devices
  | numKernels =>
    obtain ⟨_, _, same⟩ := except_bind_eq_ok_iff.mp asked
    cases same
    exact List.forall_mem_nil _
  | kernelNames =>
    obtain ⟨_, _, same⟩ := except_bind_eq_ok_iff.mp asked
    cases same
    exact List.forall_mem_nil _
  | numDevices | source | binarySizes | binaries | referenceCount =>
    cases asked
    exact List.forall_mem_nil _

theorem excused_askProgram (intact : host.registry.Intact) {handle : ProgramHandle}
    {query : ProgramQuery}
    (excused : host.registry.programs.contains handle = false → excuse .program) :
    Refuses (HostError.Excused excuse) (askProgram handle query host) := by
  refine (excused_checked excused).bind fun program found => ?_
  have there := Arena.checked_eq_ok_iff.mp found
  refine (excused_live (intact.programs.live_of_get? there)).bind fun context _ => ?_
  cases query with
  | numKernels => exact (excused_programModule program).bind fun _ _ => .ok _
  | kernelNames => exact (excused_programModule program).bind fun _ _ => .ok _
  | _ => exact .ok _

/-- A platform lists all devices. -/
theorem devices_of_platform (intact : host.registry.Intact) {handle : PlatformHandle}
    {platform : Platform} (found : host.registry.platforms.get? handle = some platform) :
    platform.devices = host.registry.devices.handles := by
  rcases intact.platform with ⟨no_platform, -⟩ | ⟨-, other, entry, listed, all, -⟩
  · rw [no_platform] at found
    cases found
  · have among := Arena.mem_objects_of_get? found
    rw [Arena.objects, listed, List.map_singleton, List.mem_singleton] at among
    rw [among, all]

/-- The devices of a platform are live. -/
theorem live_devices (intact : host.registry.Intact) (packed : host.registry.Packed)
    {handle : PlatformHandle} {platform : Platform}
    (found : host.registry.platforms.get? handle = some platform) :
    ∀ device ∈ platform.devices, host.registry.devices.contains device = true := by
  rw [devices_of_platform intact found]
  exact fun device member => packed.devices.contains_of_mem_handles member

/-- The first is put in front only if it is not among those found, so the order is kept. -/
theorem filterDevices_sublist {mask : DeviceMask} (devices : List DeviceHandle) :
    (host.filterDevices devices mask).Sublist devices := by
  unfold filterDevices
  cases devices with
  | nil => exact List.filter_sublist
  | cons first rest =>
    simp only
    split
    · rename_i put
      rw [Bool.and_eq_true, Bool.not_eq_true', List.contains_eq_mem, decide_eq_false_iff_not,
        List.mem_filter] at put
      have unasked : ¬ host.isAskedFor mask first = true :=
        fun asked => put.2 ⟨List.mem_cons_self, asked⟩
      rw [List.filter_cons_of_neg unasked]
      exact List.filter_sublist.cons_cons first
    · exact List.filter_sublist

theorem filed_deviceIds (intact : before.registry.Intact) (packed : before.registry.Packed)
    (platform : PlatformHandle) (mask : DeviceMask) :
    Filed before (.deviceIds platform mask) (step (.deviceIds platform mask) before).1
      (step (.deviceIds platform mask) before).2 := by
  refine filed_of_tends .handles rfl (.check ?_) fun found _ passed => ⟨fun _ => rfl, ?_⟩
  · refine (excused_checked fun absent => ⟨platform, List.mem_cons_self, absent⟩).bind
      fun entry _ => .refuse nofun ?_
    split
    · exact .of_error nofun
    · exact .ok _
  · obtain ⟨passes, -⟩ := check_eq_ok_iff.mp passed
    simp only [except_bind_eq_ok_iff, refuse_eq_ok_iff, Arena.checked_eq_ok_iff] at passes
    obtain ⟨entry, there, -, passes⟩ := passes
    split at passes
    · cases passes
    · cases passes
      intro named among
      obtain ⟨device, member, rfl⟩ := List.mem_map.mp among
      exact live_devices intact packed there device ((filterDevices_sublist _).subset member)

theorem step_platformIds_of_unlisted (unlisted : before.isEnumerated = false) :
    step .platformIds before =
      (.ok (.handles (before.enumerate.registry.platforms.handles.take 1)), before.enumerate) := by
  simp [step, perform, platformIds, unlisted, Functor.map, EStateM.map]

theorem step_platformIds_of_listed (listed : before.isEnumerated = true) :
    step .platformIds before =
      (.ok (.handles (before.registry.platforms.handles.take 1)), before) := by
  simp [step, perform, platformIds, listed, Functor.map, EStateM.map]

theorem filed_platformIds (packed : before.registry.Packed) :
    Filed before .platformIds (step .platformIds before).1 (step .platformIds before).2 := by
  cases listed : before.isEnumerated with
  | false =>
    rw [step_platformIds_of_unlisted listed]
    exact .listed listed
  | true =>
    rw [step_platformIds_of_listed listed]
    refine .aside (.refl _) (fun _ fails => nomatch fails) ?_
    rintro _ ⟨⟩
    refine ⟨fun _ => rfl, fun named among => ?_⟩
    obtain ⟨platform, member, rfl⟩ := List.mem_map.mp among
    exact packed.isLive_of_mem (List.mem_of_mem_take member)

/-- **Every call lists the devices, files one more object, or changes nothing of the
references.** -/
theorem step_filed (intact : before.registry.Intact) (packed : before.registry.Packed)
    (call : Call) : Filed before call (step call before).1 (step call before).2 := by
  -- a handle that the call was given excuses its kind
  have given : ∀ {kind : ObjectKind} {handle : Handle kind}, ⟨kind, handle⟩ ∈ call.named →
      before.registry.isLive handle = false → before.Excuses call kind :=
    fun named dead => ⟨_, named, dead⟩
  cases call with
  | platformIds => exact filed_platformIds packed
  | platformInfo platform query =>
    refine filed_info rfl ((excused_checked (given List.mem_cons_self)).bind fun _ _ => .ok _)
      fun value asked => ?_
    obtain ⟨entry, -, same⟩ := except_bind_eq_ok_iff.mp asked
    cases same
    cases query <;> exact List.forall_mem_nil _
  | deviceIds platform mask => exact filed_deviceIds intact packed platform mask
  | deviceInfo device query =>
    exact filed_info rfl ((excused_checked (given List.mem_cons_self)).bind fun _ _ => .ok _)
      fun value => named_deviceInfo intact packed
  | createContext devices notify =>
    exact filed_of_files rfl
      (files_createContext fun device among => given (List.mem_map_of_mem among))
  | contextInfo context query =>
    exact filed_info rfl ((excused_checked (given List.mem_cons_self)).bind fun _ _ => .ok _)
      fun value => named_contextInfo intact
  | addCollector context collector persistence =>
    refine filed_quietly rfl (tends_changeContext (fun entry => ?_) (given List.mem_cons_self))
    cases persistence <;> rfl
  | clearCollectors context =>
    exact filed_quietly rfl (tends_changeContext (fun _ => rfl) (given List.mem_cons_self))
  | createQueue context device properties =>
    exact filed_of_files rfl (files_createQueue (given List.mem_cons_self)
      (given (List.mem_cons_of_mem _ List.mem_cons_self)))
  | queueInfo queue query =>
    exact filed_info rfl ((excused_checked (given List.mem_cons_self)).bind fun _ _ => .ok _)
      fun value => named_queueInfo intact
  | finish queue =>
    exact filed_quietly rfl (.check (excused_checked (given List.mem_cons_self)).discard)
  | flush queue =>
    exact filed_quietly rfl (.check (excused_checked (given List.mem_cons_self)).discard)
  | createProgram context sources =>
    exact filed_of_files rfl (files_createProgram (given List.mem_cons_self))
  | buildProgram program devices options notify =>
    exact filed_quietly rfl (tends_buildProgram intact packed (given List.mem_cons_self)
      fun device among => given (List.mem_cons_of_mem _ (List.mem_map_of_mem among)))
  | programInfo program query =>
    exact filed_info rfl (excused_askProgram intact (given List.mem_cons_self))
      fun value => named_askProgram intact
  | createKernel program name =>
    exact filed_of_files rfl (files_createKernel (given List.mem_cons_self))
  | setArgument kernel index value =>
    have refuses : Refuses (HostError.Excused (before.Excuses (.setArgument kernel index value)))
        (checkArgument kernel index value before) :=
      (excused_checked (given List.mem_cons_self)).bind fun _ _ =>
        .refuse nofun (.refuse_last nofun)
    exact filed_quietly rfl ((Tends.check refuses).bind fun _ _ _ _ =>
      tends_changeKernel (by simp [Registry.kernelTies]))
  | kernelInfo kernel query =>
    exact filed_info rfl ((excused_checked (given List.mem_cons_self)).bind fun _ _ => .ok _)
      fun value => named_kernelInfo intact
  | createBuffer context request =>
    exact filed_of_files rfl (files_createBuffer intact (given List.mem_cons_self))
  | bufferInfo buffer query =>
    exact filed_info rfl ((excused_checked (given List.mem_cons_self)).bind fun _ _ => .ok _)
      fun value => named_bufferInfo intact
  | writeBuffer transfer data =>
    exact filed_quietly rfl (tends_writeBuffer intact (given List.mem_cons_self)
      (given (List.mem_cons_of_mem _ List.mem_cons_self)))
  | readBuffer transfer length =>
    exact filed_of_tends .bytes rfl (tends_readBuffer intact (given List.mem_cons_self)
      (given (List.mem_cons_of_mem _ List.mem_cons_self)))
        fun _ _ _ => ⟨fun _ => rfl, List.forall_mem_nil _⟩
  | enqueueKernel queue kernel range waits =>
    exact filed_quietly rfl (tends_enqueueKernel intact (given List.mem_cons_self)
      (given (List.mem_cons_of_mem _ List.mem_cons_self)))
  | registerModule name source => exact filed_quietly rfl (tends_registerModule name source)
  | unregisterModule name => exact filed_quietly rfl (tends_unregisterModule packed name)
  | setOptimization level => exact filed_quietly rfl (.modify (.refl before.registry))
  | migrateDevice source target =>
    exact filed_of_tends .moved rfl (tends_migrateDevice (given List.mem_cons_self)
      (given (List.mem_cons_of_mem _ List.mem_cons_self)))
        fun _ _ _ => ⟨fun _ => rfl, List.forall_mem_nil _⟩
  | isExecuting =>
    refine .aside (.refl before.registry) (fun _ fails => by cases fails) ?_
    rintro _ ⟨⟩
    exact ⟨fun _ => rfl, List.forall_mem_nil _⟩

end

end ComputeHost.Host
