/-
**References between the objects of a host.**

Objects name each other by handles in both directions. `Registry.Intact` says that all of these
handles are live and that the two directions agree.

* `Registry.Aside` — a change of nothing that objects refer to each other by.
* `Registry.Addition` — one more object, filed with those that list it.
* `Intact.aside`, `Intact.added`, `intact_enumerate` — what keeps references intact.
-/

import ComputeHost.Proofs.Arena.Owner
import ComputeHost.Proofs.Host.Calm

namespace ComputeHost

namespace Arena

variable {κ : Type} [DecidableEq κ] {tag : κ} {α β γ : Type} {face : α → β}
  {before after : Arena tag α}

/-! ### Arenas that show the same -/

theorem contains_of_faces (same : after.faces face = before.faces face) (handle : Handle tag) :
    after.contains handle = before.contains handle := by
  have shown : (after.faces face).contains handle = (before.faces face).contains handle := by
    rw [same]
  rwa [contains_faces, contains_faces] at shown

theorem map_get?_of_faces (same : after.faces face = before.faces face) (read : β → γ)
    (handle : Handle tag) :
    ((after.get? handle).map fun object => read (face object)) =
      (before.get? handle).map fun object => read (face object) := by
  have shown : (after.get? handle).map face = (before.get? handle).map face := by
    rw [← get?_faces, same, get?_faces]
  simpa [Function.comp_def] using congrArg (Option.map read) shown

/-- What is found shows what was found before. -/
theorem get?_of_faces (same : after.faces face = before.faces face) {handle : Handle tag}
    {object : α} (found : after.get? handle = some object) :
    ∃ earlier, before.get? handle = some earlier ∧ face earlier = face object := by
  have shown : (after.get? handle).map face = (before.get? handle).map face := by
    rw [← get?_faces, same, get?_faces]
  rw [found, Option.map_some] at shown
  exact Option.map_eq_some_iff.mp shown.symm

theorem entries_of_faces (same : after.faces face = before.faces face) (read : β → γ) :
    (after.entries.map fun entry => (entry.1, read (face entry.2))) =
      before.entries.map fun entry => (entry.1, read (face entry.2)) := by
  have shown : (after.entries.map fun entry => (entry.1, face entry.2)) =
      before.entries.map fun entry => (entry.1, face entry.2) := by
    rw [← entries_faces, same, entries_faces]
  simpa [Function.comp_def] using congrArg (List.map fun entry => (entry.1, read entry.2)) shown

theorem handles_of_faces (same : after.faces face = before.faces face) :
    after.handles = before.handles := by
  have shown : (after.faces face).handles = (before.faces face).handles := by rw [same]
  rwa [handles_faces, handles_faces] at shown

theorem handles_modify (arena : Arena tag α) (target : Handle tag) (change : α → α) :
    (arena.modify target change).handles = arena.handles := by
  have same : (arena.modify target change).faces (fun _ => ()) = arena.faces fun _ => () :=
    faces_modify (by simp) arena target
  exact handles_of_faces same

theorem mem_objects_of_faces (same : after.faces face = before.faces face) {object : α}
    (among : object ∈ after.objects) : ∃ earlier ∈ before.objects, face earlier = face object := by
  have shown : after.objects.map face = before.objects.map face := by
    rw [← objects_faces, same, objects_faces]
  have member : face object ∈ before.objects.map face := shown ▸ List.mem_map_of_mem among
  exact List.mem_map.mp member

omit [DecidableEq κ] in
theorem eq_empty_of_faces (same : after.faces face = (Arena.empty : Arena tag α).faces face) :
    after = .empty := by
  obtain ⟨slots, vacant, size⟩ := after
  simp only [faces, Arena.empty, List.map_nil, mk.injEq, List.map_eq_nil_iff] at same
  obtain ⟨rfl, rfl, rfl⟩ := same
  rfl

theorem packed_of_faces (same : after.faces face = before.faces face) (packed : before.Packed) :
    after.Packed :=
  packed_faces.mp (same ▸ packed_faces.mpr packed)

end Arena

namespace Registry

variable {δ : Type} {registry before after : Registry δ}

/-- What a kernel refers to. -/
def kernelTies (kernel : Kernel) : ProgramHandle × ContextHandle := (kernel.program, kernel.context)

/-- What a program refers to and lists. -/
def programTies (program : Program) : ContextHandle × List KernelHandle :=
  (program.context, program.kernels)

/-- Nothing changed that objects refer to each other by. -/
structure Aside (before after : Registry δ) : Prop where
  platforms : after.platforms = before.platforms
  devices : after.devices.faces Device.platform = before.devices.faces Device.platform
  contexts : after.contexts.faces Context.clearCollectors =
    before.contexts.faces Context.clearCollectors
  programs : after.programs.faces programTies = before.programs.faces programTies
  kernels : after.kernels.faces kernelTies = before.kernels.faces kernelTies
  buffers : after.buffers.faces Buffer.context = before.buffers.faces Buffer.context
  queues : after.queues = before.queues

theorem Aside.refl (registry : Registry δ) : registry.Aside registry :=
  ⟨rfl, rfl, rfl, rfl, rfl, rfl, rfl⟩

theorem Aside.trans {middle : Registry δ} (first : before.Aside middle)
    (second : middle.Aside after) : before.Aside after :=
  ⟨second.platforms.trans first.platforms, second.devices.trans first.devices,
    second.contexts.trans first.contexts, second.programs.trans first.programs,
    second.kernels.trans first.kernels, second.buffers.trans first.buffers,
    second.queues.trans first.queues⟩

/-- Whether the handle names an object. -/
def isLive (registry : Registry δ) : {kind : ObjectKind} → Handle kind → Bool
  | .platform, handle => registry.platforms.contains handle
  | .device, handle => registry.devices.contains handle
  | .context, handle => registry.contexts.contains handle
  | .program, handle => registry.programs.contains handle
  | .kernel, handle => registry.kernels.contains handle
  | .buffer, handle => registry.buffers.contains handle
  | .queue, handle => registry.queues.contains handle

/-- The handles of the objects of a kind, in slot order. -/
def handlesOf (registry : Registry δ) : (kind : ObjectKind) → List (Handle kind)
  | .platform => registry.platforms.handles
  | .device => registry.devices.handles
  | .context => registry.contexts.handles
  | .program => registry.programs.handles
  | .kernel => registry.kernels.handles
  | .buffer => registry.buffers.handles
  | .queue => registry.queues.handles

theorem Aside.symm (aside : before.Aside after) : after.Aside before :=
  ⟨aside.platforms.symm, aside.devices.symm, aside.contexts.symm, aside.programs.symm,
    aside.kernels.symm, aside.buffers.symm, aside.queues.symm⟩

theorem Aside.isLive_eq (aside : before.Aside after) {kind : ObjectKind} (handle : Handle kind) :
    after.isLive handle = before.isLive handle := by
  cases kind with
  | platform => simp only [isLive, aside.platforms]
  | device => exact Arena.contains_of_faces aside.devices handle
  | context => exact Arena.contains_of_faces aside.contexts handle
  | program => exact Arena.contains_of_faces aside.programs handle
  | kernel => exact Arena.contains_of_faces aside.kernels handle
  | buffer => exact Arena.contains_of_faces aside.buffers handle
  | queue => simp only [isLive, aside.queues]

theorem Aside.handlesOf_eq (aside : before.Aside after) (kind : ObjectKind) :
    after.handlesOf kind = before.handlesOf kind := by
  cases kind with
  | platform => simp only [handlesOf, aside.platforms]
  | device => exact Arena.handles_of_faces aside.devices
  | context => exact Arena.handles_of_faces aside.contexts
  | program => exact Arena.handles_of_faces aside.programs
  | kernel => exact Arena.handles_of_faces aside.kernels
  | buffer => exact Arena.handles_of_faces aside.buffers
  | queue => simp only [handlesOf, aside.queues]

theorem Packed.aside (packed : before.Packed) (aside : before.Aside after) : after.Packed where
  platforms := aside.platforms ▸ packed.platforms
  devices := Arena.packed_of_faces aside.devices packed.devices
  contexts := Arena.packed_of_faces aside.contexts packed.contexts
  programs := Arena.packed_of_faces aside.programs packed.programs
  kernels := Arena.packed_of_faces aside.kernels packed.kernels
  buffers := Arena.packed_of_faces aside.buffers packed.buffers
  queues := aside.queues ▸ packed.queues

theorem Packed.isLive_of_mem (packed : registry.Packed) {kind : ObjectKind} {handle : Handle kind}
    (listed : handle ∈ registry.handlesOf kind) : registry.isLive handle = true := by
  cases kind with
  | platform => exact packed.platforms.contains_of_mem_handles listed
  | device => exact packed.devices.contains_of_mem_handles listed
  | context => exact packed.contexts.contains_of_mem_handles listed
  | program => exact packed.programs.contains_of_mem_handles listed
  | kernel => exact packed.kernels.contains_of_mem_handles listed
  | buffer => exact packed.buffers.contains_of_mem_handles listed
  | queue => exact packed.queues.contains_of_mem_handles listed

/-! ### References -/

/-- **All references are live and agree.** -/
structure Intact (registry : Registry δ) : Prop where
  /-- Either nothing is listed yet, or the one platform lists the devices, which name it. -/
  platform : (registry.platforms = .empty ∧ registry.devices = .empty) ∨
    registry.platforms.isEmpty = false ∧ ∃ handle entry,
      registry.platforms.entries = [(handle, entry)] ∧ entry.devices = registry.devices.handles ∧
      ∀ device ∈ registry.devices.objects, device.platform = handle
  /-- A context is for some devices, all different and live. -/
  contexts : ∀ handle context, registry.contexts.get? handle = some context →
    context.devices ≠ [] ∧ context.devices.Nodup ∧
      ∀ device ∈ context.devices, registry.devices.contains device = true
  programs : registry.contexts.Owns registry.programs Program.context Context.programs
  queues : registry.contexts.Owns registry.queues Queue.context Context.queues
  buffers : registry.contexts.Owns registry.buffers Buffer.context Context.buffers
  kernels : registry.programs.Owns registry.kernels Kernel.program Program.kernels
  /-- A queue is for a device of its context. -/
  queueDevice : ∀ queue ∈ registry.queues.objects, ∃ context,
    registry.contexts.get? queue.context = some context ∧ queue.device ∈ context.devices
  /-- A kernel is in the context of its program. -/
  kernelContext : ∀ kernel ∈ registry.kernels.objects, ∃ program,
    registry.programs.get? kernel.program = some program ∧ kernel.context = program.context

theorem intact_empty : ({} : Registry δ).Intact where
  platform := .inl ⟨rfl, rfl⟩
  contexts := nofun
  programs := .empty
  queues := .empty
  buffers := .empty
  kernels := .empty
  queueDevice := nofun
  kernelContext := nofun

namespace Intact

/-- The device of a queue is live. -/
theorem live_of_queue (intact : registry.Intact) {handle : QueueHandle} {queue : Queue}
    (found : registry.queues.get? handle = some queue) :
    registry.devices.contains queue.device = true := by
  obtain ⟨context, there, member⟩ := intact.queueDevice queue (Arena.mem_objects_of_get? found)
  exact (intact.contexts _ context there).2.2 _ member

/-- A context lists the same devices before and after. -/
theorem devices_of_aside (aside : before.Aside after) {handle : ContextHandle} {context : Context}
    (found : after.contexts.get? handle = some context) :
    ∃ earlier, before.contexts.get? handle = some earlier ∧
      earlier.devices = context.devices := by
  obtain ⟨earlier, there, alike⟩ := Arena.get?_of_faces aside.contexts found
  have devices : earlier.clearCollectors.devices = context.clearCollectors.devices := by rw [alike]
  exact ⟨earlier, there, devices⟩

/-- **A change of nothing that objects refer to each other by keeps references intact.** -/
theorem aside (intact : before.Intact) (aside : before.Aside after) : after.Intact := by
  refine ⟨?_, fun handle context found => ?_, ?_, ?_, ?_, ?_, fun queue among => ?_,
    fun kernel among => ?_⟩
  · rcases intact.platform with
      ⟨none_listed, no_devices⟩ | ⟨filled, handle, entry, listed, all, named⟩
    · have devices := aside.devices
      rw [no_devices] at devices
      exact .inl ⟨aside.platforms.trans none_listed, Arena.eq_empty_of_faces devices⟩
    · rw [← aside.platforms] at filled listed
      refine .inr ⟨filled, handle, entry, listed, ?_, fun device among => ?_⟩
      · rw [all, Arena.handles_of_faces aside.devices]
      · obtain ⟨earlier, there, alike⟩ := Arena.mem_objects_of_faces aside.devices among
        exact alike.symm.trans (named earlier there)
  · obtain ⟨earlier, there, alike⟩ := devices_of_aside aside found
    obtain ⟨nonempty, nodup, live⟩ := intact.contexts handle earlier there
    rw [← alike]
    refine ⟨nonempty, nodup, fun device member => ?_⟩
    rw [Arena.contains_of_faces aside.devices]
    exact live device member
  · exact intact.programs.congr (Arena.map_get?_of_faces aside.contexts Context.programs)
      (Arena.entries_of_faces aside.programs Prod.fst)
  · exact intact.queues.congr (Arena.map_get?_of_faces aside.contexts Context.queues)
      (by rw [aside.queues])
  · exact intact.buffers.congr (Arena.map_get?_of_faces aside.contexts Context.buffers)
      (Arena.entries_of_faces aside.buffers id)
  · exact intact.kernels.congr (Arena.map_get?_of_faces aside.programs Prod.snd)
      (Arena.entries_of_faces aside.kernels Prod.fst)
  · rw [aside.queues] at among
    obtain ⟨context, there, member⟩ := intact.queueDevice queue among
    obtain ⟨later, found, alike⟩ := devices_of_aside aside.symm there
    exact ⟨later, found, alike ▸ member⟩
  · obtain ⟨earlier, there, alike⟩ := Arena.mem_objects_of_faces aside.kernels among
    obtain ⟨of_program, in_context⟩ := Prod.mk.inj alike
    obtain ⟨program, known, within⟩ := intact.kernelContext earlier there
    obtain ⟨later, found, alike⟩ := Arena.get?_of_faces aside.programs.symm known
    obtain ⟨same_context, -⟩ := Prod.mk.inj alike
    exact ⟨later, of_program ▸ found, by rw [← in_context, within, same_context]⟩

end Intact

/-! ### One more object -/

/-- One more object, filed with those that list it; the handle is that of the object. -/
inductive Addition (registry : Registry δ) :
    (kind : ObjectKind) → Handle kind → Registry δ → Prop
  | context {devices : List DeviceHandle} (nonempty : devices ≠ []) (nodup : devices.Nodup)
      (live : ∀ device ∈ devices, registry.devices.contains device = true) :
      Addition registry .context (registry.contexts.insert { devices }).1
        { registry with contexts := (registry.contexts.insert { devices }).2 }
  | program {program : Program} (live : registry.contexts.contains program.context = true)
      (bare : program.kernels = []) :
      Addition registry .program (registry.addProgram program).1 (registry.addProgram program).2
  | kernel {kernel : Kernel} {program : Program}
      (there : registry.programs.get? kernel.program = some program)
      (within : kernel.context = program.context) :
      Addition registry .kernel (registry.addKernel kernel).1 (registry.addKernel kernel).2
  | buffer {buffer : Buffer} (live : registry.contexts.contains buffer.context = true) :
      Addition registry .buffer (registry.addBuffer buffer).1 (registry.addBuffer buffer).2
  | queue {queue : Queue} {context : Context}
      (there : registry.contexts.get? queue.context = some context)
      (member : queue.device ∈ context.devices) :
      Addition registry .queue (registry.addQueue queue).1 (registry.addQueue queue).2

/-- The handle as one of another kind, if it is of that kind. -/
def as? {kind : ObjectKind} (handle : Handle kind) (other : ObjectKind) : Option (Handle other) :=
  if same : kind = other then some (same ▸ handle) else none

namespace Addition

variable {kind : ObjectKind} {handle : Handle kind}

theorem packed (addition : before.Addition kind handle after) (packed : before.Packed) :
    after.Packed := by
  cases addition with
  | context => exact { packed with contexts := packed.contexts.insert _ }
  | program =>
    exact { packed with
      programs := packed.programs.insert _
      contexts := packed.contexts.modify _ _ }
  | kernel =>
    exact { packed with
      kernels := packed.kernels.insert _
      programs := packed.programs.modify _ _ }
  | buffer =>
    exact { packed with
      buffers := packed.buffers.insert _
      contexts := packed.contexts.modify _ _ }
  | queue =>
    exact { packed with
      queues := packed.queues.insert _
      contexts := packed.contexts.modify _ _ }

/-- The new object is live. -/
theorem isLive_self (addition : before.Addition kind handle after) (packed : before.Packed) :
    after.isLive handle = true := by
  cases addition with
  | context => exact packed.contexts.contains_insert_self _
  | program => exact packed.programs.contains_insert_self _
  | kernel => exact packed.kernels.contains_insert_self _
  | buffer => exact packed.buffers.contains_insert_self _
  | queue => exact packed.queues.contains_insert_self _

/-- What was live is live. -/
theorem isLive_of_isLive (addition : before.Addition kind handle after) (packed : before.Packed)
    {other : ObjectKind} {old : Handle other} (live : before.isLive old = true) :
    after.isLive old = true := by
  cases addition with
  | context =>
    cases other with
    | context => exact packed.contexts.contains_insert _ live
    | _ => exact live
  | program =>
    cases other with
    | program => exact packed.programs.contains_insert _ live
    | context => exact (Arena.contains_modify _ _ _ _).trans live
    | _ => exact live
  | kernel =>
    cases other with
    | kernel => exact packed.kernels.contains_insert _ live
    | program => exact (Arena.contains_modify _ _ _ _).trans live
    | _ => exact live
  | buffer =>
    cases other with
    | buffer => exact packed.buffers.contains_insert _ live
    | context => exact (Arena.contains_modify _ _ _ _).trans live
    | _ => exact live
  | queue =>
    cases other with
    | queue => exact packed.queues.contains_insert _ live
    | context => exact (Arena.contains_modify _ _ _ _).trans live
    | _ => exact live

/-- The new object comes after those of its kind, and the others stay where they are. -/
theorem handlesOf_eq (addition : before.Addition kind handle after) (packed : before.Packed)
    (other : ObjectKind) :
    after.handlesOf other = before.handlesOf other ++ (as? handle other).toList := by
  cases addition with
  | context =>
    cases other with
    | context => exact packed.contexts.handles_insert _
    | _ => exact (List.append_nil _).symm
  | program =>
    cases other with
    | program => exact packed.programs.handles_insert _
    | context => exact (Arena.handles_modify _ _ _).trans (List.append_nil _).symm
    | _ => exact (List.append_nil _).symm
  | kernel =>
    cases other with
    | kernel => exact packed.kernels.handles_insert _
    | program => exact (Arena.handles_modify _ _ _).trans (List.append_nil _).symm
    | _ => exact (List.append_nil _).symm
  | buffer =>
    cases other with
    | buffer => exact packed.buffers.handles_insert _
    | context => exact (Arena.handles_modify _ _ _).trans (List.append_nil _).symm
    | _ => exact (List.append_nil _).symm
  | queue =>
    cases other with
    | queue => exact packed.queues.handles_insert _
    | context => exact (Arena.handles_modify _ _ _).trans (List.append_nil _).symm
    | _ => exact (List.append_nil _).symm

end Addition

namespace Intact

variable {change : Context → Context}

/-- A context that goes on listing its devices. -/
theorem contexts_modify (intact : registry.Intact) (target : ContextHandle)
    (same : ∀ context, (change context).devices = context.devices) {handle : ContextHandle}
    {context : Context}
    (found : (registry.contexts.modify target change).get? handle = some context) :
    context.devices ≠ [] ∧ context.devices.Nodup ∧
      ∀ device ∈ context.devices, registry.devices.contains device = true := by
  rw [Arena.get?_modify] at found
  split at found
  · obtain ⟨earlier, there, rfl⟩ := Option.map_eq_some_iff.mp found
    rw [same]
    exact intact.contexts _ earlier there
  · exact intact.contexts handle context found

/-- A queue goes on being for a device of its context. -/
theorem queueDevice_modify (target : ContextHandle)
    (same : ∀ context, (change context).devices = context.devices) {queue : Queue}
    (within : ∃ context, registry.contexts.get? queue.context = some context ∧
      queue.device ∈ context.devices) :
    ∃ context, (registry.contexts.modify target change).get? queue.context = some context ∧
      queue.device ∈ context.devices := by
  obtain ⟨context, there, member⟩ := within
  rw [Arena.get?_modify]
  by_cases here : queue.context = target
  · rw [if_pos here, ← here, there]
    exact ⟨_, rfl, by rwa [same]⟩
  · rw [if_neg here]
    exact ⟨context, there, member⟩

/-- **One more object keeps references intact.** -/
theorem added (intact : before.Intact) (packed : before.Packed) {kind : ObjectKind}
    {handle : Handle kind} (addition : before.Addition kind handle after) : after.Intact := by
  cases addition with
  | @context devices nonempty nodup live =>
    refine { intact with
      contexts := fun handle context found => ?_
      programs := intact.programs.insertOwner packed.contexts rfl
      queues := intact.queues.insertOwner packed.contexts rfl
      buffers := intact.buffers.insertOwner packed.contexts rfl
      queueDevice := fun queue among => ?_ }
    · simp only [packed.contexts.get?_insert, Option.or_eq_some_iff] at found
      rcases found with old | ⟨_, new⟩
      · exact intact.contexts handle context old
      · split at new
        · cases new
          exact ⟨nonempty, nodup, live⟩
        · cases new
    · obtain ⟨context, there, member⟩ := intact.queueDevice queue among
      refine ⟨context, ?_, member⟩
      rw [packed.contexts.get?_insert, there, Option.some_or]
  | @program program live bare =>
    refine { intact with
      contexts := fun handle context found => intact.contexts_modify _ (by simp) found
      programs := intact.programs.insert packed.programs live fun _ => rfl
      queues := intact.queues.modify _ fun _ => rfl
      buffers := intact.buffers.modify _ fun _ => rfl
      kernels := intact.kernels.insertOwner packed.programs bare
      queueDevice := fun queue among =>
        queueDevice_modify _ (by simp) (intact.queueDevice queue among)
      kernelContext := fun kernel among => ?_ }
    obtain ⟨owner, there, within⟩ := intact.kernelContext kernel among
    refine ⟨owner, ?_, within⟩
    show (before.programs.insert program).2.get? kernel.program = some owner
    rw [packed.programs.get?_insert, there, Option.some_or]
  | @kernel kernel program there within =>
    have live : before.programs.contains kernel.program = true :=
      Arena.contains_iff.mpr ⟨program, there⟩
    have contexts : (before.addKernel kernel).2.programs.faces Program.context =
        before.programs.faces Program.context := Arena.faces_modify (by simp) _ _
    refine { intact with
      programs := intact.programs.congr (fun _ => rfl) (Arena.entries_of_faces contexts id)
      kernels := intact.kernels.insert packed.kernels live fun _ => rfl
      kernelContext := fun other among => ?_ }
    have before_context : ∃ owner, before.programs.get? other.program = some owner ∧
        other.context = owner.context := by
      have among : other ∈ (before.kernels.insert kernel).2.objects := among
      rw [packed.kernels.objects_insert, List.mem_append, List.mem_singleton] at among
      rcases among with old | rfl
      · exact intact.kernelContext other old
      · exact ⟨program, there, within⟩
    obtain ⟨owner, known, same⟩ := before_context
    obtain ⟨later, found, alike⟩ := Arena.get?_of_faces contexts.symm known
    exact ⟨later, found, same.trans alike.symm⟩
  | @buffer buffer live =>
    exact { intact with
      contexts := fun handle context found => intact.contexts_modify _ (by simp) found
      programs := intact.programs.modify _ fun _ => rfl
      queues := intact.queues.modify _ fun _ => rfl
      buffers := intact.buffers.insert packed.buffers live fun _ => rfl
      queueDevice := fun queue among =>
        queueDevice_modify _ (by simp) (intact.queueDevice queue among) }
  | @queue queue context there member =>
    have live : before.contexts.contains queue.context = true :=
      Arena.contains_iff.mpr ⟨context, there⟩
    refine { intact with
      contexts := fun handle context found => intact.contexts_modify _ (by simp) found
      programs := intact.programs.modify _ fun _ => rfl
      queues := intact.queues.insert packed.queues live fun _ => rfl
      buffers := intact.buffers.modify _ fun _ => rfl
      queueDevice := fun other among => queueDevice_modify _ (by simp) ?_ }
    have among : other ∈ (before.queues.insert queue).2.objects := among
    rw [packed.queues.objects_insert, List.mem_append, List.mem_singleton] at among
    rcases among with old | rfl
    · exact intact.queueDevice other old
    · exact ⟨context, there, member⟩

end Intact

end Registry

/-! ### Listing the devices -/

namespace Host

variable {δ : Type}

/-- The devices of a platform come after those there, and name the platform. -/
theorem addDevices_entries (platform : PlatformHandle) (backends : List δ)
    {devices : Arena ObjectKind.device (Device δ)} (packed : devices.Packed) :
    (addDevices platform backends devices).2.Packed ∧
      (addDevices platform backends devices).2.handles =
        devices.handles ++ (addDevices platform backends devices).1 ∧
      ((∀ device ∈ devices.objects, device.platform = platform) →
        ∀ device ∈ (addDevices platform backends devices).2.objects,
          device.platform = platform) := by
  induction backends generalizing devices with
  | nil => exact ⟨packed, (List.append_nil _).symm, id⟩
  | cons backend rest ih =>
    obtain ⟨kept, listed, named⟩ := ih (packed.insert ⟨platform, backend⟩)
    refine ⟨kept, ?_, fun before => named fun device among => ?_⟩
    · rw [packed.handles_insert, List.append_assoc] at listed
      exact listed
    · rw [packed.objects_insert, List.mem_append, List.mem_singleton] at among
      rcases among with old | rfl
      · exact before device old
      · rfl

/-- What listing makes of a host without platform and devices. -/
theorem enumerate_registry {host : Host δ} (no_platform : host.registry.platforms = .empty)
    (no_devices : host.registry.devices = .empty) :
    host.enumerate.registry =
      { host.registry with
        platforms :=
          { slots := [⟨1, some ⟨host.settings.platformName, host.settings.platformVendor,
              (addDevices ⟨0, 1⟩ host.pending .empty).1⟩⟩]
            vacant := []
            size := 1 }
        devices := (addDevices ⟨0, 1⟩ host.pending .empty).2 } := by
  unfold enumerate
  rw [no_platform, no_devices]
  rfl

/-- **Listing the devices keeps references intact.** Nothing refers to devices before. -/
theorem intact_enumerate {host : Host δ} (intact : host.registry.Intact)
    (packed : host.registry.Packed) (unlisted : host.isEnumerated = false) :
    host.enumerate.registry.Intact ∧ host.enumerate.registry.Packed ∧
      (∀ (kind : ObjectKind) (handle : Handle kind), host.registry.isLive handle = true →
        host.enumerate.registry.isLive handle = true) ∧
      ∀ kind, kind ≠ .platform → kind ≠ .device →
        host.enumerate.registry.handlesOf kind = host.registry.handlesOf kind := by
  have empty : host.registry.platforms.isEmpty = true := by simpa [isEnumerated] using unlisted
  rcases intact.platform with ⟨no_platform, no_devices⟩ | ⟨filled, -⟩
  · obtain ⟨kept, listed, named⟩ := addDevices_entries ⟨0, 1⟩ host.pending
      (.empty : (Arena.empty : Arena ObjectKind.device (Device δ)).Packed)
    have no_context : ∀ handle, host.registry.contexts.get? handle = none := by
      refine fun handle => Option.eq_none_iff_forall_ne_some.mpr fun context found => ?_
      obtain ⟨nonempty, -, live⟩ := intact.contexts handle context found
      obtain ⟨device, rest, some_devices⟩ := List.exists_cons_of_ne_nil nonempty
      have alive := live device (by rw [some_devices]; exact List.mem_cons_self)
      rw [no_devices] at alive
      cases alive
    rw [enumerate_registry no_platform no_devices]
    refine ⟨{ intact with
      platform := .inr ⟨rfl, ⟨0, 1⟩, _, rfl, listed.symm, named nofun⟩
      contexts := fun handle context found => ?_ },
      { packed with
        platforms := ⟨rfl, fun slot among => ?_⟩
        devices := kept }, fun kind handle live => ?_, fun kind not_platform not_device => ?_⟩
    · have absent := no_context handle
      have found : host.registry.contexts.get? handle = some context := found
      rw [absent] at found
      cases found
    · rw [List.mem_singleton.mp among]
      exact ⟨rfl, rfl⟩
    · cases kind with
      | platform =>
        simp only [Registry.isLive, no_platform] at live
        cases live
      | device =>
        simp only [Registry.isLive, no_devices] at live
        cases live
      | _ => exact live
    · cases kind with
      | platform => exact absurd rfl not_platform
      | device => exact absurd rfl not_device
      | _ => rfl
  · rw [empty] at filled
    cases filled

end Host

end ComputeHost
