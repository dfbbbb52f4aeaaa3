/-
**Runs of a host.**

A run starts with fresh devices and is a sequence of calls, with switches of the devices turned in
between. Its history holds the calls and their results, the last one in front.

* `Transition.regular`, `Run.regular` — every host that a run reaches is in good order.
* `Whole` — a history in which no migration was refused by a device.
* `Run.calls` — a list of calls continues a run.
-/

import ComputeHost.Proofs.Host.Transition

namespace ComputeHost.Host

variable {host before middle after : Host SimulatedDevice}

/-! ### Good order after what a call does -/

/-- Good order depends on the devices and the table only through their agreement. -/
theorem Regular.of_linked (regular : before.Regular)
    (rest : ∃ devices modules nextBuild, after =
      { before with registry := { before.registry with devices }, modules, nextBuild })
    (live : ∀ handle, (after.backend? handle).isSome = (before.backend? handle).isSome)
    (linked : after.Linked) : after.Regular := by
  have unlisted : after.isEnumerated = false → ∀ handle, after.backend? handle = none := by
    intro unlisted handle
    have same : after.isEnumerated = before.isEnumerated := by
      obtain ⟨_, _, _, rfl⟩ := rest
      rfl
    have none_before := regular.unlisted (same ▸ unlisted) handle
    simpa [none_before] using live handle
  have contexts : ∀ handle context, before.registry.contexts.get? handle = some context →
      context.devices ≠ [] ∧ context.devices.Nodup ∧
        ∀ device ∈ context.devices, (after.backend? device).isSome := by
    intro handle context found
    obtain ⟨nonempty, nodup, alive⟩ := regular.contexts handle context found
    refine ⟨nonempty, nodup, fun device member => ?_⟩
    rw [live]
    exact alive device member
  obtain ⟨devices, modules, nextBuild, rfl⟩ := rest
  exact
    { packed := { regular.packed with devices := linked.packed }
      sound := linked.sound
      pending := regular.pending
      unlisted
      agrees := linked.agrees
      contexts
      queues := regular.queues }

theorem Regular.steady (regular : before.Regular)
    (across : Across SimulatedDevice.Steady before after) : after.Regular := by
  obtain ⟨devices, same⟩ := across.rest
  refine regular.of_linked ⟨devices, before.modules, before.nextBuild, same⟩ across.each.isSome_eq
    ⟨across.packed regular.packed.devices, across.sound regular.sound, ?_⟩
  refine regular.agrees.of_eq (by rw [same]) fun handle => ?_
  unfold modulesOn
  rcases across.each handle with ⟨here, there⟩ | ⟨one, other, here, there, steady⟩
  · rw [here, there]
  · rw [here, there, Option.map_some, Option.map_some, steady.modules]

theorem Regular.relinked (regular : before.Regular) {name : String}
    (relinked : Relinked name before after) (linked : after.Linked) : after.Regular :=
  regular.of_linked relinked.rest relinked.each.isSome_eq linked

theorem Regular.built (regular : host.Regular) (handle : ProgramHandle) (builds : List Build) :
    (host.built handle builds).Regular :=
  { regular with
    packed := { regular.packed with programs := regular.packed.programs.modify _ _ }
    agrees := { regular.agrees with } }

theorem Regular.repointed (regular : host.Regular) (source target : DeviceHandle)
    (moved : AddressMap) : (host.repointed source target moved).Regular :=
  { regular with
    packed := { regular.packed with buffers := regular.packed.buffers.map _ }
    agrees := { regular.agrees with } }

/-! ### Listing the devices -/

/-- Listing adds the devices given, and nothing else. -/
theorem addDevices_spec (platform : PlatformHandle) (backends : List SimulatedDevice)
    {devices : Arena ObjectKind.device (Device SimulatedDevice)} (packed : devices.Packed) :
    (addDevices platform backends devices).2.Packed ∧
      ∀ handle device, (addDevices platform backends devices).2.get? handle = some device →
        devices.get? handle = some device ∨ device.backend ∈ backends := by
  induction backends generalizing devices with
  | nil => exact ⟨packed, fun _ _ found => .inl found⟩
  | cons backend rest ih =>
    obtain ⟨kept, origin⟩ := ih (packed.insert { platform, backend })
    refine ⟨kept, fun handle device found => ?_⟩
    rcases origin handle device found with earlier | given
    · rw [packed.get?_insert, Option.or_eq_some_iff] at earlier
      rcases earlier with old | ⟨_, new⟩
      · exact .inl old
      · split at new
        · cases new
          exact .inr List.mem_cons_self
        · cases new
    · exact .inr (List.mem_cons_of_mem _ given)

/-- The devices that were just listed are those that were given. -/
theorem enumerate_origin (regular : host.Regular) (unlisted : host.isEnumerated = false)
    {handle : DeviceHandle} {device : SimulatedDevice}
    (found : host.enumerate.backend? handle = some device) : device ∈ host.pending := by
  obtain ⟨entry, there, rfl⟩ := Option.map_eq_some_iff.mp found
  have origin := (addDevices_spec (host.registry.platforms.insert
    { name := host.settings.platformName, vendor := host.settings.platformVendor,
      devices := [] }).1 host.pending regular.packed.devices).2 handle entry there
  rcases origin with old | given
  · have none_before := regular.unlisted unlisted handle
    unfold backend? at none_before
    rw [old] at none_before
    cases none_before
  · exact given

/-- The devices that were just listed hold nothing. -/
theorem enumerate_blank (regular : host.Regular) (unlisted : host.isEnumerated = false)
    {handle : DeviceHandle} {device : SimulatedDevice}
    (found : host.enumerate.backend? handle = some device) : device.Blank :=
  regular.pending device (enumerate_origin regular unlisted found)

/-- Before the devices are listed there are no contexts. -/
theorem Regular.no_context (regular : host.Regular) (unlisted : host.isEnumerated = false)
    (handle : ContextHandle) : host.registry.contexts.get? handle = none := by
  refine Option.eq_none_iff_forall_ne_some.mpr fun context found => ?_
  obtain ⟨nonempty, _, live⟩ := regular.contexts handle context found
  obtain ⟨device, member⟩ := List.exists_mem_of_ne_nil _ nonempty
  have alive := live device member
  rw [regular.unlisted unlisted device] at alive
  cases alive

/-- Before the devices are listed no module is loaded. -/
theorem Regular.not_has (regular : host.Regular) (unlisted : host.isEnumerated = false)
    (module : KernelModule) (handle : DeviceHandle) : ¬ host.modules.Has module handle := by
  intro has
  have live := regular.agrees.live module handle has
  rw [modulesOn_isSome, regular.unlisted unlisted handle] at live
  cases live

/-- Listing leaves a platform. -/
theorem isEnumerated_enumerate (host : Host SimulatedDevice) :
    host.enumerate.isEnumerated = true := by
  have filled : host.enumerate.registry.platforms.isEmpty = false :=
    (Arena.isEmpty_modify _ _ _).trans (Arena.isEmpty_insert _ _)
  unfold isEnumerated
  rw [filled]
  rfl

theorem Regular.enumerate (regular : host.Regular) (unlisted : host.isEnumerated = false) :
    host.enumerate.Regular := by
  have packed := (addDevices_spec (host.registry.platforms.insert
    { name := host.settings.platformName, vendor := host.settings.platformVendor,
      devices := [] }).1 host.pending regular.packed.devices).1
  refine
    { packed := { regular.packed with
        platforms := (regular.packed.platforms.insert _).modify _ _
        devices := packed }
      sound := fun handle device found => (enumerate_blank regular unlisted found).sound
      pending := List.forall_mem_nil _
      unlisted := fun still => ?_
      agrees := ⟨regular.agrees.named, fun module handle has => ?_,
        fun handle held found module => ?_⟩
      contexts := fun handle context found => ?_
      queues := regular.queues }
  · rw [isEnumerated_enumerate] at still
    cases still
  · exact absurd has (regular.not_has unlisted module handle)
  · obtain ⟨device, there, rfl⟩ := Option.map_eq_some_iff.mp found
    rw [(enumerate_blank regular unlisted there).modules]
    exact iff_of_false List.not_mem_nil (regular.not_has unlisted module handle)
  · have absent : host.registry.contexts.get? handle = none := regular.no_context unlisted handle
    have same : host.registry.contexts.get? handle = some context := found
    rw [absent] at same
    cases same

/-! ### Switches -/

/-- A change of the device at a position is a change across the devices listed, or one of the
devices that are still to be listed. -/
theorem adjust_run {relation : SimulatedDevice → SimulatedDevice → Prop}
    (reflexive : ∀ device, relation device device) (host : Host SimulatedDevice) (position : Nat)
    {change : SimulatedDevice → SimulatedDevice}
    (related : ∀ device, relation device (change device)) :
    Across relation host (host.adjust position change) ∨
      ∃ pending, host.adjust position change = { host with pending } ∧
        ∀ device ∈ pending, ∃ one ∈ host.pending, relation one device := by
  unfold adjust
  cases host.isEnumerated with
  | true =>
    left
    rw [if_pos rfl]
    cases host.registry.devices.handles[position]? with
    | none => exact .refl reflexive host
    | some handle =>
      refine ⟨⟨_, rfl⟩, Arena.faces_modify (by simp) host.registry.devices handle, fun other => ?_⟩
      have changed : backend? { host with registry := { host.registry with
          devices := host.registry.devices.modify handle fun device =>
            { device with backend := change device.backend } } } other =
          if other = handle then (host.backend? handle).map change else host.backend? other := by
        unfold backend?
        simp only [Arena.get?_modify]
        split
        · rw [Option.map_map, Option.map_map]
          rfl
        · rfl
      rw [changed]
      by_cases here : other = handle
      · subst here
        rw [if_pos rfl]
        cases host.backend? other with
        | none => exact .inl ⟨rfl, rfl⟩
        | some device => exact .inr ⟨device, change device, rfl, rfl, related device⟩
      · rw [if_neg here]
        exact Each.refl reflexive host other
  | false =>
    right
    rw [if_neg Bool.false_ne_true]
    refine ⟨_, rfl, fun device member => ?_⟩
    obtain ⟨index, found⟩ := List.mem_iff_getElem?.mp member
    rw [List.getElem?_modify] at found
    obtain ⟨one, there, rfl⟩ := Option.map_eq_some_iff.mp found
    refine ⟨one, List.mem_of_getElem? there, ?_⟩
    split
    · exact related one
    · exact reflexive one

/-- What happens to a device at a position is calm if it is for the device. -/
theorem adjust_calm (host : Host SimulatedDevice) (position : Nat)
    {change : SimulatedDevice → SimulatedDevice}
    (alike : ∀ device : SimulatedDevice, device.Alike (change device)) :
    host.Calm (host.adjust position change) := by
  rcases adjust_run SimulatedDevice.Alike.refl host position alike with
    across | ⟨pending, same, origin⟩
  · exact .of_across across
  · rw [same]
    exact { Calm.refl host with packed := id, pending := origin }

/-! ### Runs -/

/-- **Every call keeps a host in good order.** -/
theorem Transition.regular {call : Call} {result : Except HostError Answer}
    (transition : Transition before call result after) (regular : before.Regular) :
    after.Regular := by
  cases transition with
  | quiet _ calm => exact regular.calm calm
  | failed calm => exact regular.calm calm
  | listed unlisted => exact regular.enumerate unlisted
  | contextMade nonempty nodup live => exact regular.withContext nonempty nodup live
  | queueMade there member calm settled =>
    obtain ⟨later, stands, same⟩ := calm.context_to there
    exact ((regular.calm calm).withQueue stands (same ▸ member)).calm settled
  | programMade settled => exact (regular.withProgram _).calm settled
  | kernelMade _ settled => exact (regular.withKernel _).calm settled
  | bufferMade _ _ _ _ across _ _ settled =>
    exact ((regular.steady across).withBuffer _).calm settled
  | written _ _ _ across _ => exact regular.steady across
  | registered new read =>
    have named := KernelModule.parse_name read
    exact regular.relinked (.enroll before _) (regular.linked.enroll (named ▸ new))
  | unregistered _ stripped =>
    exact regular.relinked stripped.relinked (regular.linked.strip stripped)
  | rebuilt _ _ => exact regular
  | built _ _ _ _ _ relinked linked _ => exact (regular.relinked relinked linked).built _ _
  | idle _ => exact regular
  | stranded _ strands => exact regular.steady strands.across
  | migrated _ done => exact (regular.steady done.across).repointed _ _ _

/-- A call and its result. -/
structure Exchange where
  call : Call
  result : Except HostError Answer

/-- The hosts that can be reached, with the calls so far and their results, the last in front. -/
inductive Run : List Exchange → Host SimulatedDevice → Prop
  | start (settings : Settings) (devices : List (Nat × DeviceProperties)) :
      Run [] (Host.new settings (devices.map fun device => .new device.1 device.2))
  | call {history : List Exchange} {host : Host SimulatedDevice} (run : Run history host)
      (call : Call) : Run (⟨call, (step call host).1⟩ :: history) (step call host).2
  | turn {history : List Exchange} {host : Host SimulatedDevice} (run : Run history host)
      (position : Nat) (switch : SimulatedDevice.Switch) :
      Run history (host.adjust position fun device => device.turn switch)

/-- **Every host that a run reaches is in good order.** -/
theorem Run.regular {history : List Exchange} (run : Run history host) : host.Regular := by
  induction run with
  | start settings devices =>
    refine regular_new settings fun device member => ?_
    obtain ⟨given, _, rfl⟩ := List.mem_map.mp member
    exact SimulatedDevice.blank_new given.1 given.2
  | call _ call regular => exact (step_transition regular call).regular regular
  | turn _ position switch regular =>
    exact regular.calm (adjust_calm _ position fun device => device.alike_turn switch)

/-- Whether the call was a migration that a device refused. -/
def Exchange.isRefusedMove (exchange : Exchange) : Bool :=
  match exchange.call, exchange.result with
  | .migrateDevice _ _, .error (.device _) => true
  | _, _ => false

/-- No migration was refused by a device. -/
def Whole (history : List Exchange) : Prop :=
  ∀ exchange ∈ history, exchange.isRefusedMove = false

instance (history : List Exchange) : Decidable (Whole history) :=
  inferInstanceAs (Decidable (∀ exchange ∈ history, exchange.isRefusedMove = false))

theorem Whole.tail {exchange : Exchange} {history : List Exchange}
    (whole : Whole (exchange :: history)) : Whole history :=
  fun earlier member => whole earlier (List.mem_cons_of_mem _ member)

/-- The calls of a list with their results, the last in front. -/
def record (calls : List Call) (host : Host SimulatedDevice) : List Exchange :=
  (calls.zipWith Exchange.mk (run calls host).1).reverse

/-- A list of calls continues a run. -/
theorem Run.calls {history : List Exchange} (reached : Run history host) (calls : List Call) :
    Run (record calls host ++ history) (Host.run calls host).2 := by
  induction calls generalizing history host with
  | nil => exact reached
  | cons call rest ih =>
    have later := ih (reached.call call)
    have same : record (call :: rest) host ++ history =
        record rest (step call host).2 ++ (⟨call, (step call host).1⟩ :: history) := by
      unfold record
      simp [Host.run]
    rw [same]
    exact later

/-- The calls that a new host is given make a run. -/
theorem run_new (settings : Settings) (devices : List (Nat × DeviceProperties))
    (calls : List Call) :
    let host := Host.new settings (devices.map fun device => SimulatedDevice.new device.1 device.2)
    Run (record calls host) (Host.run calls host).2 := by
  have later := (Run.start settings devices).calls calls
  rwa [List.append_nil] at later

/-- A host for two accelerators with the given memory. -/
def twin (first second : UInt64) : Host SimulatedDevice :=
  Host.new {} [.new 1 (.gpu "a" first), .new 2 (.gpu "b" second)]

/-- The calls that a host for two accelerators is given make a run. -/
theorem run_twin (first second : UInt64) (calls : List Call) :
    Run (record calls (twin first second)) (Host.run calls (twin first second)).2 :=
  run_new {} [(1, .gpu "a" first), (2, .gpu "b" second)] calls

end ComputeHost.Host
