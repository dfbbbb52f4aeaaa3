/-
**What most calls leave alone.**

Apart from what they do on selected devices, most calls change programs, buffers, modules and what
contexts list, and nothing else. A relation between hosts that is kept by each of these
(`Framed`) is kept by all such calls, however they end.

* `Host.attached` — the collectors of a context.
* `Host.Apart` — a change of nothing but programs, buffers, modules and what contexts list.
* `Framed.buildProgram`, `Framed.createBuffer`, `Framed.migrateDevice` and their kin — calls that a
  framed relation holds across.
* `Framed.perform` — all of these calls at once.
-/

import ComputeHost.Proofs.Device.Service
import ComputeHost.Proofs.Host.Run

namespace ComputeHost

/-- Whether every framed relation holds across the call. -/
def Call.isFramed : Call → Bool
  | .platformIds | .createContext .. | .addCollector .. | .clearCollectors _ | .createQueue ..
  | .createKernel .. | .setArgument .. | .enqueueKernel .. => false
  | _ => true

namespace Host

open ComputeHost.Action

/-! ### Collectors of contexts -/

/-- The collectors of a context, those of every launch and those of the next; a handle that is not
live has none. -/
def attached {δ : Type} (host : Host δ) (context : ContextHandle) :
    List CollectorId × List CollectorId :=
  ((host.registry.contexts.get? context).map fun entry => (entry.persistent, entry.oneShot)).getD
    ([], [])

theorem attached_of_some {δ : Type} {host : Host δ} {context : ContextHandle} {entry : Context}
    (found : host.registry.contexts.get? context = some entry) :
    host.attached context = (entry.persistent, entry.oneShot) := by
  rw [attached, found]
  rfl

variable {host before middle after : Host SimulatedDevice} {α β : Type}

/-- The collectors of the contexts after one of them was changed. -/
theorem attached_change {registry : Registry SimulatedDevice} {target : ContextHandle}
    {change : Context → Context} {entry : Context}
    (same : registry.contexts = host.registry.contexts.modify target change)
    (found : host.registry.contexts.get? target = some entry) (context : ContextHandle) :
    { host with registry }.attached context =
      if context = target then ((change entry).persistent, (change entry).oneShot)
      else host.attached context := by
  unfold attached
  simp only [same, Arena.get?_modify, found, Option.map_some]
  split <;> rfl

/-- A change of what a context lists changes no collectors. -/
theorem attached_modify {registry : Registry SimulatedDevice} {target : ContextHandle}
    {change : Context → Context}
    (same : registry.contexts = host.registry.contexts.modify target change)
    (keeps : ∀ entry,
      ((change entry).persistent, (change entry).oneShot) = (entry.persistent, entry.oneShot))
    (context : ContextHandle) :
    { host with registry }.attached context = host.attached context := by
  cases found : host.registry.contexts.get? target with
  | some entry =>
    rw [attached_change same found, keeps]
    split
    · rename_i here
      rw [here, attached_of_some found]
    · rfl
  | none =>
    unfold attached
    simp only [same, Arena.get?_modify, found]
    split
    · rename_i here
      rw [here, found]
      rfl
    · rfl

/-- Nothing changed but programs, buffers, modules and what contexts list. -/
structure Apart (before after : Host SimulatedDevice) : Prop where
  pending : after.pending = before.pending
  devices : after.registry.devices = before.registry.devices
  kernels : after.registry.kernels = before.registry.kernels
  queues : after.registry.queues = before.registry.queues
  attached : ∀ context, after.attached context = before.attached context
  recorders : after.recorders = before.recorders
  executing : after.executing = before.executing

theorem Apart.refl (host : Host SimulatedDevice) : host.Apart host :=
  ⟨rfl, rfl, rfl, rfl, fun _ => rfl, rfl, rfl⟩

/-- A relation that composes, and that holds across what selected devices do and across changes of
programs, buffers, modules and what contexts list. -/
structure Framed (relation : Host SimulatedDevice → Host SimulatedDevice → Prop) : Prop where
  trans : ∀ {before middle after}, relation before middle → relation middle after →
    relation before after
  across : ∀ {before after}, Across SimulatedDevice.Served before after → relation before after
  apart : ∀ {before after : Host SimulatedDevice}, before.Apart after → relation before after

/-- The devices of a pair are two live devices of different handles. -/
theorem getPair?_eq_some {source target : DeviceHandle} {one two : Device SimulatedDevice}
    (pairing : host.registry.devices.getPair? source target = some (one, two)) :
    source ≠ target ∧ host.backend? source = some one.backend ∧
      host.backend? target = some two.backend := by
  obtain ⟨differ, live, alive⟩ := Arena.getPair?_eq_some_iff.mp pairing
  exact ⟨differ, by simp [backend?, live], by simp [backend?, alive]⟩

namespace Framed

variable {relation : Host SimulatedDevice → Host SimulatedDevice → Prop}

theorem refl (framed : Framed relation) (host : Host SimulatedDevice) : relation host host :=
  framed.apart (.refl host)

/-! ### Actions in sequence -/

theorem seq (framed : Framed relation) {first : HostAction SimulatedDevice α}
    {rest : α → HostAction SimulatedDevice β} (begins : Within relation first)
    (goes : ∀ value, Within relation (rest value)) : Within relation (first >>= rest) :=
  begins.bind (fun _ _ _ => framed.trans) goes

theorem get (framed : Framed relation) :
    Within relation (get : HostAction SimulatedDevice (Host SimulatedDevice)) := framed.refl

theorem check (framed : Framed relation) (look : Host SimulatedDevice → Except HostError α) :
    Within relation (check look) := by
  intro host
  unfold Host.check
  cases look host <;> exact framed.refl host

theorem attempt {action : HostAction SimulatedDevice Unit} (within : Within relation action) :
    Within relation (attempt action) := by
  intro host
  have step := within host
  unfold Host.attempt
  cases outcome : action host <;>
    · rw [outcome] at step
      exact step

/-- Working on a selected device serves it. -/
theorem onDevice (framed : Framed relation) {action : DeviceAction SimulatedDevice α}
    (works : Within SimulatedDevice.Works action) (handle : DeviceHandle)
    (lift : DeviceError → HostError) : Within relation (onDevice handle lift action) := by
  intro host
  cases found : host.backend? handle with
  | none =>
    rw [onDevice_of_none found]
    exact framed.refl host
  | some device =>
    have served := SimulatedDevice.served_selected works device
    cases outcome : DeviceDriver.selected action device with
    | ok value changed =>
      rw [outcome] at served
      rw [onDevice_of_ok found outcome]
      exact framed.across (.setBackend SimulatedDevice.Served.refl found served)
    | error cause changed =>
      rw [outcome] at served
      rw [onDevice_of_error found outcome]
      exact framed.across (.setBackend SimulatedDevice.Served.refl found served)

/-! ### Modules and programs -/

theorem setModules (framed : Framed relation) (modules : ModuleTable) :
    Within relation (setModules modules : HostAction SimulatedDevice Unit) :=
  fun host => framed.apart { Apart.refl host with }

theorem setOptimization (framed : Framed relation) (level : OptimizationLevel) :
    Within relation (setOptimization level : HostAction SimulatedDevice Unit) :=
  fun host => framed.apart { Apart.refl host with }

theorem registerModule (framed : Framed relation) (name source : String) :
    Within relation (registerModule name source : HostAction SimulatedDevice Unit) :=
  framed.seq (framed.check _) framed.setModules

theorem unloadFrom (framed : Framed relation) (name : String) (devices : List DeviceHandle) :
    Within relation (unloadFrom name devices : HostAction SimulatedDevice Unit) := by
  induction devices with
  | nil => exact framed.refl
  | cons device rest ih =>
    exact framed.seq (framed.onDevice (SimulatedDevice.works_unloadModule name) _ _) fun _ => ih

theorem unregisterModule (framed : Framed relation) (name : String) :
    Within relation (unregisterModule name : HostAction SimulatedDevice Unit) := by
  refine framed.seq framed.get fun host => ?_
  split
  · exact framed.refl
  · refine framed.seq (framed.unloadFrom name _) fun _ => ?_
    exact framed.seq framed.get fun host => framed.setModules _

theorem loadOn (framed : Framed relation) (name : String) (device : DeviceHandle) :
    Within relation (loadOn name device : HostAction SimulatedDevice Unit) := by
  refine framed.seq framed.get fun host => ?_
  split
  · exact framed.refl
  · split
    · refine framed.seq (framed.onDevice (SimulatedDevice.works_load _ _) _ _) fun _ => ?_
      exact framed.seq framed.get fun host => framed.setModules _
    · exact framed.refl

theorem loadOnAll (framed : Framed relation) (name : String) (devices : List DeviceHandle) :
    Within relation (loadOnAll name devices : HostAction SimulatedDevice Unit) := by
  induction devices with
  | nil => exact framed.refl
  | cons device rest ih =>
    intro host
    have loading := framed.loadOn name device host
    unfold Host.loadOnAll
    cases loaded : Host.loadOn name device host with
    | ok _ middle =>
      rw [loaded] at loading
      exact framed.trans loading (ih middle)
    | error error middle =>
      -- the module is taken off again, whether or not that works
      rw [loaded] at loading
      have removing := attempt (framed.unregisterModule name) middle
      simp only
      cases removed : Host.attempt (Host.unregisterModule name) middle <;>
        · rw [removed] at removing
          exact framed.trans loading removing

theorem buildProgram (framed : Framed relation) (program : ProgramHandle)
    (devices : Option (List DeviceHandle)) (options : Option String) (notify : Bool) :
    Within relation (buildProgram program devices options notify :
      HostAction SimulatedDevice Unit) := by
  refine framed.seq (framed.check _) fun (entry, targets) => ?_
  show Within relation (if entry.builds.isNone = true then _ else _ :
    HostAction SimulatedDevice Unit)
  split
  · refine framed.seq framed.get fun found => ?_
    have counting : Within relation (modify fun host : Host SimulatedDevice =>
        { host with nextBuild := found.nextBuild + 1 } : HostAction SimulatedDevice PUnit) :=
      fun host => framed.apart { Apart.refl host with }
    refine framed.seq counting fun _ => framed.seq (framed.registerModule _ _) fun _ => ?_
    exact framed.seq (framed.loadOnAll _ _) fun _ host =>
      framed.apart { Apart.refl host with attached := fun _ => rfl }
  · exact framed.refl

theorem createProgram (framed : Framed relation) (context : ContextHandle)
    (sources : List String) :
    Within relation (createProgram context sources : HostAction SimulatedDevice ProgramHandle) := by
  unfold Host.createProgram
  rw [discard_check]
  refine framed.seq (framed.check _) fun _ => ?_
  split
  · exact framed.refl
  · exact fun host => framed.apart { Apart.refl host with
      attached := attached_modify rfl fun _ => rfl }

/-! ### Buffers and transfers -/

theorem freePlaces (framed : Framed relation) (places : List (DeviceHandle × Address)) :
    Within relation (freePlaces places : HostAction SimulatedDevice Unit) := by
  induction places with
  | nil => exact framed.refl
  | cons place rest ih =>
    refine framed.seq (attempt ?_) fun _ => ih
    exact framed.onDevice (SimulatedDevice.works_free _) _ _

theorem allocatePlaces (framed : Framed relation) (request : BufferRequest)
    (initial : Option Bytes) (devices : List DeviceHandle)
    (places : List (DeviceHandle × Address)) :
    Within relation (allocatePlaces request initial places devices :
      HostAction SimulatedDevice (List (DeviceHandle × Address))) := by
  induction devices generalizing places with
  | nil => exact framed.refl
  | cons device rest ih =>
    intro host
    have allocating := framed.onDevice (SimulatedDevice.works_allocateBuffer request.size
      (request.flags.contains .allocHostPtr) initial) device
      (fun cause => .memAllocation (host.deviceName device) cause.message) host
    unfold Host.allocatePlaces
    simp only
    cases allocated : Host.onDevice device
        (fun cause => .memAllocation (host.deviceName device) cause.message)
        (allocateBuffer request.size (request.flags.contains .allocHostPtr) initial) host with
    | ok address middle =>
      rw [allocated] at allocating
      exact framed.trans allocating (ih _ middle)
    | error error middle =>
      -- what was allocated before is given back, whether or not that works
      rw [allocated] at allocating
      have freeing := framed.freePlaces places middle
      simp only
      cases freed : Host.freePlaces places middle <;>
        · rw [freed] at freeing
          exact framed.trans allocating freeing

theorem createBuffer (framed : Framed relation) (context : ContextHandle)
    (request : BufferRequest) :
    Within relation (createBuffer context request : HostAction SimulatedDevice BufferHandle) := by
  refine framed.seq (framed.check _) fun entry => framed.seq (framed.check _) fun initial => ?_
  exact framed.seq (framed.allocatePlaces _ _ _ _) fun places host =>
    framed.apart { Apart.refl host with
      attached := attached_modify rfl fun _ => rfl }

theorem writeBuffer (framed : Framed relation) (transfer : Transfer) (data : Bytes) :
    Within relation (writeBuffer transfer data : HostAction SimulatedDevice Unit) := by
  refine framed.seq (framed.check _) fun (device, address) => ?_
  exact framed.onDevice (SimulatedDevice.works_write _ _ _) _ _

theorem readBuffer (framed : Framed relation) (transfer : Transfer) (length : Nat) :
    Within relation (readBuffer transfer length : HostAction SimulatedDevice Bytes) := by
  refine framed.seq (framed.check _) fun (device, address) => ?_
  exact (framed.onDevice (SimulatedDevice.works_read _ _ _) _ _).map

/-! ### Migrations -/

theorem migratePair (framed : Framed relation) (source target : DeviceHandle)
    (modules : List KernelModule) :
    Within relation (migratePair source target modules :
      HostAction SimulatedDevice AddressMap) := by
  intro host
  unfold Host.migratePair
  cases pairing : host.registry.devices.getPair? source target with
  | none => exact framed.refl host
  | some pair =>
    obtain ⟨leaving, entering⟩ := pair
    obtain ⟨differ, leave, enter⟩ := getPair?_eq_some pairing
    have tended := SimulatedDevice.tended_migrate modules ⟨leaving.backend, entering.backend⟩
    have finish : ∀ after : DevicePair SimulatedDevice,
        SimulatedDevice.Tended ⟨leaving.backend, entering.backend⟩ after →
          relation host (host.setPair source target after) := fun after step =>
      framed.across (.setPair SimulatedDevice.Served.refl (fun _ _ _ =>
        SimulatedDevice.Served.trans) differ leave enter step.source step.target)
    simp only
    cases moved : Migration.migrate modules ⟨leaving.backend, entering.backend⟩ <;>
      · rw [moved] at tended
        exact finish _ tended

theorem migrateDevice (framed : Framed relation) (source target : DeviceHandle) :
    Within relation (migrateDevice source target : HostAction SimulatedDevice AddressMap) := by
  refine framed.seq framed.get fun host => ?_
  split
  · exact framed.refl
  · refine framed.seq (framed.check _) fun _ => ?_
    refine framed.seq (framed.migratePair _ _ _) fun moved => ?_
    have relocating : Within relation (relocateBuffers source target moved :
        HostAction SimulatedDevice Unit) := by
      refine framed.seq framed.get fun host => ?_
      refine framed.seq (fun host => framed.apart { Apart.refl host with attached := fun _ => rfl })
        fun _ => ?_
      split
      · exact attempt (framed.onDevice (SimulatedDevice.works_freeEach _) _ _)
      · exact framed.refl
    exact framed.seq relocating fun _ => framed.refl

/-! ### Calls -/

/-- **A framed relation holds across most calls**, however they end. -/
theorem perform (framed : Framed relation) {call : Call} (frames : call.isFramed = true) :
    Within relation (perform call : HostAction SimulatedDevice Answer) := by
  cases call with
  | createProgram context sources => exact (framed.createProgram _ _).map
  | buildProgram program devices options notify =>
    exact within_quietly (framed.buildProgram _ _ _ _)
  | createBuffer context request => exact (framed.createBuffer _ _).map
  | writeBuffer transfer data => exact within_quietly (framed.writeBuffer _ _)
  | readBuffer transfer length => exact (framed.readBuffer _ _).map
  | registerModule name source => exact within_quietly (framed.registerModule _ _)
  | unregisterModule name => exact within_quietly (framed.unregisterModule _)
  | setOptimization level => exact within_quietly (framed.setOptimization _)
  | migrateDevice source target => exact (framed.migrateDevice _ _).map
  | isExecuting => exact framed.refl
  | finish queue | flush queue => exact within_quietly (framed.check _)
  | platformInfo | deviceIds | deviceInfo | contextInfo | queueInfo | programInfo | kernelInfo
  | bufferInfo => exact (framed.check _).map
  | platformIds | createContext | addCollector | clearCollectors | createQueue | createKernel
  | setArgument | enqueueKernel => cases frames

end Framed

end Host

end ComputeHost
