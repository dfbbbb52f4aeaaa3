/-
**Devices between calls.**

A device belongs to nobody between two calls: it was given back as often as it was taken, and
nothing was asked of it in between (`Idle`). Every operation keeps a device selected while it runs
and notes nothing but modules and levels (`Works`), however it ends; so selecting, operating and
unselecting leaves the device idle (`served_selected`). New streams and launches are noted too, and
have lemmas of their own.

* `Served` — what bracketed operations keep: what the device is, idleness, the record of launches,
  the count of streams.
* `tended_migrate` — a migration serves both devices, however far it gets.
* `selected_createStream` — a new stream has the next number.
* `launchSelected_run` — a launch that succeeds adds its record; another one adds none.
-/

import ComputeHost.Host.Launch
import ComputeHost.Host.Relocation
import ComputeHost.Proofs.Device.Operation

namespace ComputeHost

namespace SimulatedDevice

open ComputeHost.Action

variable {device middle after : SimulatedDevice} {α β : Type}

/-- The device is not selected and was unselected as often as it was selected; it was never selected
twice, and nothing was asked of it while it was not selected. -/
structure Idle (device : SimulatedDevice) : Prop where
  unselected : device.selected = false
  balanced : device.probe.selects = device.probe.unselects
  unnested : device.probe.nestingViolations = 0
  orderly : device.probe.unselectedAccesses = 0

theorem idle_new (number : Nat) (properties : DeviceProperties) : (new number properties).Idle :=
  ⟨rfl, rfl, rfl, rfl⟩

/-- What operations on a device leave as it was, if they neither launch nor make streams. -/
structure Served (device after : SimulatedDevice) : Prop where
  properties : after.properties = device.properties
  idle : device.Idle → after.Idle
  launches : after.probe.launches = device.probe.launches
  streams : after.probe.streams = device.probe.streams

theorem Served.refl (device : SimulatedDevice) : device.Served device := ⟨rfl, id, rfl, rfl⟩

theorem Served.trans (first : device.Served middle) (second : middle.Served after) :
    device.Served after :=
  ⟨second.properties.trans first.properties, second.idle ∘ first.idle,
    second.launches.trans first.launches, second.streams.trans first.streams⟩

/-- Turning a switch is no operation. -/
theorem served_turn (device : SimulatedDevice) (switch : Switch) :
    device.Served (device.turn switch) :=
  ⟨rfl, fun idle => ⟨idle.unselected, idle.balanced, idle.unnested, idle.orderly⟩, rfl, rfl⟩

/-! ### Operations on a selected device -/

/-- A selected device stays selected and what it is, and notes modules and levels only. -/
def Works (device after : SimulatedDevice) : Prop :=
  device.selected = true → after.selected = true ∧ after.properties = device.properties ∧
    ∃ loads unloads optimization,
      after.probe = { device.probe with loads, unloads, optimization }

theorem Works.refl (device : SimulatedDevice) : device.Works device :=
  fun selected => ⟨selected, rfl, _, _, _, rfl⟩

theorem Works.trans (first : device.Works middle) (second : middle.Works after) :
    device.Works after := by
  intro selected
  obtain ⟨still, same, loads, unloads, level, noted⟩ := first selected
  obtain ⟨kept, same', loads', unloads', level', noted'⟩ := second still
  exact ⟨kept, same'.trans same, loads', unloads', level', by rw [noted', noted]⟩

/-- Nothing is refused while the device is selected. -/
theorem works_compositional : Compositional Works where
  refl := Works.refl
  trans := Works.trans
  refused _ unselected selected := absurd (unselected.symm.trans selected) Bool.false_ne_true

theorem works_allocateAs (residency : Residency) (size : Nat) :
    Within Works (allocateAs residency size) :=
  works_compositional.allocateAs fun _ _ _ _ selected => ⟨selected, rfl, _, _, _, rfl⟩

theorem works_free (address : Address) : Within Works (free address) :=
  works_compositional.free fun _ _ _ selected => ⟨selected, rfl, _, _, _, rfl⟩

theorem works_write (address : Address) (offset : Nat) (data : Block) :
    Within Works (write address offset data) :=
  works_compositional.write fun _ _ _ selected => ⟨selected, rfl, _, _, _, rfl⟩

theorem works_read (address : Address) (offset length : Nat) :
    Within Works (read address offset length) :=
  works_compositional.read address offset length

theorem works_loadModule (module : KernelModule) : Within Works (loadModule module) := by
  have places := works_compositional.placeGlobals (works_allocateAs .global)
    (fun address data => works_write address 0 data) module.globals
  exact works_compositional.loadModule places fun _ _ selected => ⟨selected, rfl, _, _, _, rfl⟩

theorem works_unloadModule (name : String) : Within Works (unloadModule name) :=
  works_compositional.unloadModule works_free (fun _ selected => ⟨selected, rfl, _, _, _, rfl⟩)
    fun _ selected => ⟨selected, rfl, _, _, _, rfl⟩

/-! ### What hosts do with a selected device -/

theorem works_load (module : KernelModule) (level : OptimizationLevel) :
    Within Works (do
      DeviceDriver.loadModule module
      modify (DeviceDriver.setOptimization level) : DeviceAction SimulatedDevice PUnit) :=
  works_compositional.seq (works_loadModule module) fun _ _ selected =>
    ⟨selected, rfl, _, _, _, rfl⟩

theorem works_allocateBuffer (size : Nat) (hostVisible : Bool) (initial : Option Bytes) :
    Within Works (allocateBuffer size hostVisible initial :
      DeviceAction SimulatedDevice Address) := by
  unfold allocateBuffer
  cases hostVisible
  all_goals
    refine works_compositional.seq (works_allocateAs _ _) fun address device => ?_
    cases initial with
    | none => exact .refl device
    | some data =>
      have wrote : device.Works (final ((DeviceDriver.write address 0 (.ofBytes data) :
          DeviceAction SimulatedDevice Unit) device)) := works_write _ _ _ device
      cases written : (DeviceDriver.write address 0 (.ofBytes data) :
          DeviceAction SimulatedDevice Unit) device with
      | ok _ middle =>
        rw [written] at wrote
        simp only [written]
        exact wrote
      | error cause middle =>
        -- the allocation is given back, whether or not that works
        rw [written] at wrote
        have freed : middle.Works (final ((DeviceDriver.free address :
            DeviceAction SimulatedDevice Unit) middle)) := works_free address middle
        simp only [written]
        cases given : (DeviceDriver.free address : DeviceAction SimulatedDevice Unit) middle <;>
          · rw [given] at freed
            exact wrote.trans freed

theorem works_freeEach (addresses : List Address) :
    Within Works (Host.freeEach addresses : DeviceAction SimulatedDevice Unit) := by
  induction addresses with
  | nil => exact fun device => .refl device
  | cons address rest ih =>
    intro device
    have freed : device.Works (final
        ((DeviceDriver.free address : DeviceAction SimulatedDevice Unit) device)) :=
      works_free address device
    unfold Host.freeEach
    cases given : (DeviceDriver.free address : DeviceAction SimulatedDevice Unit) device <;>
      · rw [given] at freed
        simp only
        exact freed.trans (ih _)

/-! ### Between selecting and unselecting -/

/-- **An operation that works on a selected device leaves it idle again**, however it ends. -/
theorem served_selected {action : DeviceAction SimulatedDevice α} (works : Within Works action)
    (device : SimulatedDevice) :
    device.Served (final (DeviceDriver.selected action device)) := by
  have finish : ∀ after : SimulatedDevice, device.select.Works after →
      device.Served after.unselect := by
    intro after step
    obtain ⟨_, same, loads, unloads, level, noted⟩ := step rfl
    refine ⟨same, fun idle => ⟨rfl, ?_, ?_, ?_⟩, ?_, ?_⟩
    · show after.probe.selects = after.probe.unselects + 1
      rw [noted]
      exact congrArg (· + 1) idle.balanced
    · show after.probe.nestingViolations = 0
      rw [noted]
      show device.probe.nestingViolations + (if device.selected then 1 else 0) = 0
      rw [idle.unnested, idle.unselected]
      rfl
    · show after.probe.unselectedAccesses = 0
      rw [noted]
      exact idle.orderly
    · show after.probe.launches = device.probe.launches
      rw [noted]
      rfl
    · show after.probe.streams = device.probe.streams
      rw [noted]
      rfl
  have step := works device.select
  cases outcome : action device.select with
  | ok value after =>
    rw [outcome] at step
    have ran : DeviceDriver.selected action device = _ := DeviceDriver.selected_of_ok outcome
    rw [ran]
    exact finish after step
  | error cause after =>
    rw [outcome] at step
    have ran : DeviceDriver.selected action device = _ := DeviceDriver.selected_of_error outcome
    rw [ran]
    exact finish after step

/-! ### Migrations -/

/-- Both devices of a pair were served. -/
structure Tended (pair after : DevicePair SimulatedDevice) : Prop where
  source : pair.source.Served after.source
  target : pair.target.Served after.target

theorem Tended.refl (pair : DevicePair SimulatedDevice) : Tended pair pair :=
  ⟨.refl pair.source, .refl pair.target⟩

theorem tended_seq {first : MigrationAction SimulatedDevice α}
    {rest : α → MigrationAction SimulatedDevice β} (begins : Within Tended first)
    (goes : ∀ value, Within Tended (rest value)) : Within Tended (first >>= rest) :=
  begins.bind (fun _ _ _ one two => ⟨one.source.trans two.source, one.target.trans two.target⟩) goes

theorem tended_onSource {action : DeviceAction SimulatedDevice α} (works : Within Works action) :
    Within Tended (Migration.onSource action) := by
  intro pair
  have served := served_selected works pair.source
  unfold Migration.onSource
  cases outcome : DeviceDriver.selected action pair.source <;>
    · rw [outcome] at served
      exact ⟨served, .refl pair.target⟩

theorem tended_onTarget {action : DeviceAction SimulatedDevice α} (works : Within Works action) :
    Within Tended (Migration.onTarget action) := by
  intro pair
  have served := served_selected works pair.target
  unfold Migration.onTarget
  cases outcome : DeviceDriver.selected action pair.target <;>
    · rw [outcome] at served
      exact ⟨.refl pair.source, served⟩

/-- The view of host-visible memory is no operation of the device. -/
theorem tended_sourceView (address : Address) :
    Within Tended (Migration.sourceView address : MigrationAction SimulatedDevice Block) := by
  intro pair
  unfold Migration.sourceView
  have viewed : DeviceDriver.hostView address pair.source =
      (pair.source.heap.hostView address, pair.source) := rfl
  rw [viewed]
  cases pair.source.heap.hostView address <;> exact .refl pair

theorem tended_copyOver (allocation : Allocation) :
    Within Tended (Migration.copyOver allocation :
      MigrationAction SimulatedDevice (Option Address)) := by
  unfold Migration.copyOver
  cases allocation.residency with
  | deviceOnly =>
    refine tended_seq (tended_onSource (works_read _ _ _)) fun data => ?_
    refine tended_seq (tended_onTarget (works_allocateAs _ _)) fun moved => ?_
    exact tended_seq (tended_onTarget (works_write _ _ _)) fun _ pair => .refl pair
  | hostVisible flags =>
    refine tended_seq (tended_onTarget (works_allocateAs _ _)) fun moved => ?_
    refine tended_seq (tended_sourceView _) fun data => ?_
    exact tended_seq (tended_onTarget (works_write _ _ _)) fun _ pair => .refl pair
  | global => exact fun pair => .refl pair

theorem tended_relocate (allocations : List Allocation) :
    Within Tended (Migration.relocate allocations :
      MigrationAction SimulatedDevice AddressMap) := by
  induction allocations with
  | nil => exact fun pair => .refl pair
  | cons allocation rest ih =>
    refine tended_seq (tended_copyOver allocation) fun moved => ?_
    cases moved with
    | none => exact ih
    | some address =>
      refine tended_seq (tended_onSource (works_free _)) fun _ => ?_
      exact tended_seq ih fun _ pair => .refl pair

theorem tended_copyGlobals (globals : List (Allocation × Allocation)) :
    Within Tended (Migration.copyGlobals globals : MigrationAction SimulatedDevice Unit) := by
  induction globals with
  | nil => exact fun pair => .refl pair
  | cons global rest ih =>
    refine tended_seq (tended_onSource (works_read _ _ _)) fun data => ?_
    exact tended_seq (tended_onTarget (works_write _ _ _)) fun _ => ih

/-- **A migration leaves both devices idle**, at whatever step it fails. -/
theorem tended_migrate (modules : List KernelModule) :
    Within Tended (Migration.migrate modules : MigrationAction SimulatedDevice AddressMap) := by
  unfold Migration.migrate
  refine tended_seq ?_ fun globals => tended_seq (fun pair => .refl pair) fun pair => ?_
  · -- looking up the storage changes nothing
    intro pair
    simp only
    cases Migration.storagePairs pair modules <;> exact .refl pair
  · refine tended_seq (tended_relocate _) fun moved => ?_
    exact tended_seq (tended_copyGlobals globals) fun _ pair => .refl pair

/-! ### Streams and launches -/

/-- A new stream was made. -/
structure Streamed (device : SimulatedDevice) (stream : StreamId) (after : SimulatedDevice) :
    Prop where
  properties : after.properties = device.properties
  idle : device.Idle → after.Idle
  launches : after.probe.launches = device.probe.launches
  stream : stream.value = device.probe.streams + 1
  streams : after.probe.streams = device.probe.streams + 1

/-- A launch ran. -/
structure Launched (device : SimulatedDevice) (record : LaunchRecord) (after : SimulatedDevice) :
    Prop where
  properties : after.properties = device.properties
  idle : device.Idle → after.Idle
  launches : after.probe.launches = device.probe.launches ++ [record]
  streams : after.probe.streams = device.probe.streams

theorem served_visited (device : SimulatedDevice) : device.Served device.visited := by
  have nothing : Within Works (pure () : DeviceAction SimulatedDevice Unit) := Works.refl
  exact served_selected nothing device

/-- A new stream is made, or the device is idle again. -/
theorem selected_createStream (device : SimulatedDevice) :
    (∃ cause after, DeviceDriver.selected DeviceDriver.createStream device = .error cause after ∧
      device.Served after) ∨
    ∃ stream after, DeviceDriver.selected DeviceDriver.createStream device = .ok stream after ∧
      device.Streamed stream after := by
  have made := createStream_of_selected device.selected_select
  have visited := served_visited device
  split at made
  · left
    exact ⟨_, _, DeviceDriver.selected_of_error made, visited⟩
  · right
    refine ⟨_, _, DeviceDriver.selected_of_ok made, rfl, fun idle => ?_, rfl, rfl, rfl⟩
    have again := visited.idle idle
    exact ⟨rfl, again.balanced, again.unnested, again.orderly⟩

/-- Checking a launch on a selected device changes nothing. -/
theorem checkLaunch_of_selected (selected : device.selected = true) (request : LaunchRequest) :
    final (checkLaunch request device) = device := by
  have keeps : Compositional fun device after => device.selected = true → after = device := {
    refl _ _ := rfl
    trans first second selected := by
      obtain rfl := first selected
      exact second selected
    refused _ unselected selected := absurd (unselected.symm.trans selected) Bool.false_ne_true }
  exact keeps.checkLaunch request device selected

/-- **A launch that succeeds adds its record, and one that fails adds none.** Either way the device
is idle again. -/
theorem launchSelected_run (request : LaunchRequest) (device : SimulatedDevice) :
    ((Host.launchSelected request device).1.result = .ok () ∧
      device.Launched request.record (Host.launchSelected request device).2) ∨
    ∃ cause, (Host.launchSelected request device).1.result = .error cause ∧
      device.Served (Host.launchSelected request device).2 := by
  have same := checkLaunch_of_selected device.selected_select request
  have visited := served_visited device
  show ((launch request device.select).1.result = .ok () ∧
      device.Launched request.record (launch request device.select).2.unselect) ∨
    ∃ cause, (launch request device.select).1.result = .error cause ∧
      device.Served (launch request device.select).2.unselect
  unfold launch
  cases checked : checkLaunch request device.select with
  | error cause after =>
    rw [checked] at same
    obtain rfl : after = device.select := same
    exact .inr ⟨cause, rfl, visited⟩
  | ok _ after =>
    rw [checked] at same
    obtain rfl : after = device.select := same
    simp only
    have again : ∀ idle : device.Idle, device.visited.Idle := visited.idle
    split
    · right
      refine ⟨_, rfl, rfl, fun idle => ?_, rfl, rfl⟩
      exact ⟨rfl, (again idle).balanced, (again idle).unnested, (again idle).orderly⟩
    · left
      refine ⟨rfl, rfl, fun idle => ?_, rfl, rfl⟩
      exact ⟨rfl, (again idle).balanced, (again idle).unnested, (again idle).orderly⟩

end SimulatedDevice

end ComputeHost
