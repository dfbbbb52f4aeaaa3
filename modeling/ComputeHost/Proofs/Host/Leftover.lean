/-
**What a load that fails leaves behind.**

A device makes the storage of a module's global variables one after the other, and enters the module
only when all of it is there. If it refuses one, the storage made before stays, and no module is
there to unload that would free it. So a load that failed costs the device as many bytes as the
variables before the refused one take, and a build that failed costs them on the device that refused
it; it costs nothing on the others, where the module was loaded and is unloaded again.

* `SimulatedDevice.Keeps` — a device with the storage of some variables more.
* `loadOnAll_left` — what is left where loading on several devices fails.
* `failed_loads_leave` — both on every device in use and behind every host.
-/

import ComputeHost.Proofs.Device.Windows
import ComputeHost.Proofs.Host.Run

namespace ComputeHost

namespace SimulatedDevice

variable {device after : SimulatedDevice} {module : KernelModule}

/-- The device has the same modules and, besides what it held, storage for these variables. -/
structure Keeps (device : SimulatedDevice) (globals : List GlobalVariable)
    (after : SimulatedDevice) : Prop where
  modules : after.modules = device.modules
  contents : after.heap.contents =
    device.heap.contents ++ Heap.storageFrom device.heap.next globals
  used : after.heap.used = device.heap.used + (globals.map GlobalVariable.size).sum

theorem Refused.keeps (refused : device.Refused module after) (ordered : device.heap.Ordered) :
    device.Keeps (device.placed module.globals) after :=
  ⟨refused.modules, refused.heap.contents, refused.heap.used ordered⟩

/-- A load that fails is one of a new module that the device refused. -/
theorem refused_of_loadModule {cause : DeviceError} (ordered : device.heap.Ordered)
    (selected : device.selected = true)
    (failed : loadModule module device = .error cause after) : device.Refused module after := by
  cases known : device.loaded? module.name with
  | none =>
    rcases loadModule_run selected ordered module known with
      ⟨_, heap, refused, storing, _⟩ | ⟨_, done, _⟩
    · rw [refused] at failed
      cases failed
      exact ⟨storing, rfl⟩
    · rw [done] at failed
      cases failed
  | some loaded =>
    have got : (get : DeviceAction SimulatedDevice SimulatedDevice) device = .ok device device :=
      rfl
    unfold loadModule at failed
    rw [Action.bind_of_ok (ensureSelected_of_selected selected), Action.bind_of_ok got,
      if_neg (by simp [known])] at failed
    cases failed

/-- Nothing is left behind exactly if not even the first variable was placed. -/
theorem Keeps.untouched_iff {globals : List GlobalVariable} (keeps : device.Keeps globals after) :
    device.Untouched after ↔ globals = [] := by
  constructor
  · intro untouched
    have same := keeps.contents.symm.trans untouched.contents
    rw [List.append_right_eq_self] at same
    cases globals with
    | nil => rfl
    | cons global rest => cases same
  · rintro rfl
    exact ⟨keeps.modules, keeps.contents.trans (List.append_nil _), keeps.used⟩

end SimulatedDevice

namespace Host

variable {host middle after : Host SimulatedDevice} {name : String} {error : HostError}
  {module : KernelModule}

/-! ### Loading on several devices -/

/-- What is live where loading a module on several devices failed: on no device anything of the
module, but for the storage that one of them made before it refused. -/
inductive LoadLeft (name : String) (module : KernelModule) (host after : Host SimulatedDevice) :
    HostError → Prop
  | clean {error : HostError} (same : ∀ handle address,
      after.content? handle address = host.besides name handle address) :
      LoadLeft name module host after error
  | stored {target : DeviceHandle} {device later : SimulatedDevice} {cause : DeviceError}
      (found : host.backend? target = some device) (new : device.loaded? name = none)
      (refused : device.Refused module later)
      (kept : ∀ address, after.content? target address = later.heap.content? address)
      (others : ∀ handle, handle ≠ target → ∀ address,
        after.content? handle address = host.besides name handle address) :
      LoadLeft name module host after (.device cause)

/-- Taking a module off again leaves what is live besides it. -/
theorem LoadFailed.left {target : DeviceHandle} (named : module.name = name)
    (failed : LoadFailed module target host error middle)
    (content : ∀ handle address,
      after.content? handle address = middle.besides name handle address) :
    LoadLeft name module host after error := by
  cases failed with
  | dead _ => exact .clean content
  | @refused device later _ found new refused _ =>
    rw [named] at new
    have there : (host.setBackend target later).backend? target = some later := by
      rw [backend?_setBackend, if_pos rfl, found]
      rfl
    have absent : later.loaded? name = none := by
      unfold SimulatedDevice.loaded? at new ⊢
      rw [refused.modules]
      exact new
    refine .stored found new refused (fun address => ?_) fun handle other address => ?_
    · rw [content, besides_of_none there absent, content?_of_backend? there]
    · rw [content]
      unfold besides
      rw [backend?_setBackend, if_neg other]

/-- **Loading on several devices**, where it fails, takes off again what it loaded; only what the
device that refused had stored stays. -/
theorem loadOnAll_left (linked : host.Linked) {entry : ModuleEntry}
    (registered : host.modules.find? name = some entry) {targets : List DeviceHandle}
    (failed : loadOnAll name targets host = .error error after) :
    LoadLeft name entry.module host after error := by
  induction targets generalizing host entry with
  | nil => cases failed
  | cons target rest ih =>
    unfold loadOnAll at failed
    rcases loadOn_run linked registered target with
      ⟨cause, middle, refused, refusal⟩ |
        ⟨middle, done, _, linked', ⟨later, found, same, grown⟩, frame, besides⟩
    · have across := refusal.across linked.sound
      have known : middle.modules.find? name = some entry := by
        obtain ⟨devices, rfl⟩ := across.rest
        exact registered
      have sound : ∀ handle device, middle.backend? handle = some device → device.Sound :=
        (across.imp fun _ _ => SimulatedDevice.Alike.steady).sound linked.sound
      obtain ⟨final, stripped, removed⟩ :=
        unregisterModule_run (across.packed linked.packed) sound known
      simp only [refused] at failed
      unfold attempt at failed
      rw [removed] at failed
      cases failed
      exact refusal.left (ModuleTable.mem_of_find? registered).2 stripped.content
    · simp only [done] at failed
      rw [← same]
      cases ih linked' found failed with
      | clean content =>
        exact .clean fun handle address => (content handle address).trans (besides handle address)
      | @stored refuser device _ _ there new refused kept others =>
        -- the device that refused is not the one that has just loaded the module
        have other : refuser ≠ target := by
          rintro rfl
          obtain ⟨_, loaded, here, held, _⟩ := linked'.loaded?_eq_some found
            (grown refuser (List.mem_append_right _ (List.mem_singleton_self _)))
          obtain rfl := Option.some.inj (there.symm.trans here)
          rw [new] at held
          cases held
        exact .stored (frame refuser other ▸ there) new refused kept
          fun handle differ address => (others handle differ address).trans (besides handle address)

/-! ### Builds -/

/-- What a build that failed leaves on the devices: all that they held, and besides it at most the
storage that one device made before it refused the module. -/
inductive BuildLeft (program : ProgramHandle) (host after : Host SimulatedDevice) :
    HostError → Prop
  | clean {error : HostError} (each : Each SimulatedDevice.Untouched host after) :
      BuildLeft program host after error
  | stored {entry : Program} {module : KernelModule} {target : DeviceHandle}
      {device later : SimulatedDevice} {cause : DeviceError}
      (there : host.registry.programs.get? program = some entry)
      (read : KernelModule.parse (buildName host.nextBuild) entry.source = .ok module)
      (before : host.backend? target = some device) (behind : after.backend? target = some later)
      (keeps : device.Keeps (device.placed module.globals) later)
      (others : ∀ handle, handle ≠ target →
        (host.backend? handle = none ∧ after.backend? handle = none) ∨
          ∃ one other, host.backend? handle = some one ∧ after.backend? handle = some other ∧
            one.Untouched other) :
      BuildLeft program host after (.device cause)

/-- A build that fails changes what is live as its loading did. -/
theorem LoadLeft.built {program : ProgramHandle} {entry : Program} (regular : host.Regular)
    (calm : host.Calm after) (there : host.registry.programs.get? program = some entry)
    (read : KernelModule.parse (buildName host.nextBuild) entry.source = .ok module)
    (absent : ∀ handle device, host.backend? handle = some device → device.loaded? name = none)
    (left : LoadLeft name module host after error) : BuildLeft program host after error := by
  have untouched : ∀ handle, (∀ address,
      after.content? handle address = host.besides name handle address) →
        (host.backend? handle = none ∧ after.backend? handle = none) ∨
          ∃ one other, host.backend? handle = some one ∧ after.backend? handle = some other ∧
            one.Untouched other := by
    intro handle same
    refine (calm.each handle).imp_right fun ⟨one, other, here, behind, alike⟩ =>
      ⟨one, other, here, behind, ?_⟩
    have sound := regular.sound handle one here
    refine .of_content sound.ordered (alike.sound sound).ordered alike.modules fun address => ?_
    rw [← content?_of_backend? behind, same, besides_of_none here (absent handle one here),
      content?_of_backend? here]
  cases left with
  | clean same => exact .clean fun handle => untouched handle (same handle)
  | @stored target device later cause found new refused kept others =>
    rcases calm.each target with ⟨gone, _⟩ | ⟨one, final, here, behind, alike⟩
    · rw [found] at gone
      cases gone
    · obtain rfl := Option.some.inj (found.symm.trans here)
      have sound := regular.sound target device found
      have same : later.Untouched final := by
        refine .of_content refused.heap.ordered (alike.sound sound).ordered
          (alike.modules.trans refused.modules.symm) fun address => ?_
        rw [← kept, content?_of_backend? behind]
      have keeps := refused.keeps sound.ordered
      refine .stored there read found behind ⟨alike.modules, ?_, ?_⟩ fun handle other =>
        untouched handle (others handle other)
      · exact same.contents.trans keeps.contents
      · exact same.used.trans keeps.used

/-- **A build that fails** leaves the devices as they were, but for the storage that one of them
made before it refused the module. -/
theorem buildProgram_left (regular : host.Regular) {program : ProgramHandle}
    {devices : Option (List DeviceHandle)} {options : Option String} {notify : Bool}
    (failed : buildProgram program devices options notify host = .error error after) :
    BuildLeft program host after error := by
  have calm : host.Calm after := by
    rcases buildProgram_run regular program devices options notify with
      ⟨_, _, refused, calm⟩ | ⟨_, _, _, ⟨_, done⟩ | ⟨_, _, _, _, _, _, _, _, _, done⟩⟩
    · rw [refused] at failed
      cases failed
      exact calm
    · rw [done] at failed
      cases failed
    · rw [done] at failed
      cases failed
  rcases buildProgram_inv regular program devices options notify with
    ⟨cause, refused⟩ | ⟨entry, targets, there, _,
      ⟨_, done⟩ | ⟨_, cause, refused⟩ | ⟨_, new, module, read, course⟩⟩
  · rw [refused] at failed
    cases failed
    exact .clean (.refl (fun _ => ⟨rfl, rfl, rfl⟩) host)
  · rw [done] at failed
    cases failed
  · rw [refused] at failed
    cases failed
    exact .clean (.refl (fun _ => ⟨rfl, rfl, rfl⟩) host)
  · obtain ⟨linked, registered, _⟩ := registered_enrolled regular new read
    rw [course] at failed
    cases loaded : loadOnAll (buildName host.nextBuild) targets
      (enrolled { host with nextBuild := host.nextBuild + 1 } module) with
    | ok _ middle =>
      rw [Action.bind_of_ok loaded] at failed
      cases failed
    | error cause middle =>
      rw [Action.bind_of_error loaded] at failed
      cases failed
      have left : LoadLeft (buildName host.nextBuild) module host after error := by
        cases loadOnAll_left linked registered loaded with
        | clean same => exact .clean same
        | stored found new refused kept others => exact .stored found new refused kept others
      exact left.built regular calm there read fun _ _ found =>
        regular.linked.loaded?_of_unregistered new found

/-- **What a load that fails leaves behind.** A device in use that is selected and fails to load a
module holds what it held and, besides, the storage that it made before it failed; so it is as it
was exactly if it placed no variable. A build that fails after a run leaves the devices as they
were, but for such storage on the device that refused it. -/
theorem failed_loads_leave (device : SimulatedDevice) (module : KernelModule)
    (host : Host SimulatedDevice) (program : ProgramHandle) :
    (∀ (after : SimulatedDevice) (cause : DeviceError),
      device.Reached → device.selected = true →
      (DeviceDriver.loadModule module : DeviceAction SimulatedDevice Unit) device =
        .error cause after →
        device.Keeps (device.placed module.globals) after ∧
          (device.Untouched after ↔ device.placed module.globals = [])) ∧
    ∀ (history : List Exchange) (after : Host SimulatedDevice)
      (devices : Option (List DeviceHandle)) (options : Option String) (notify : Bool)
      (error : HostError), Run history host →
      step (.buildProgram program devices options notify) host = (.error error, after) →
        BuildLeft program host after error := by
  refine ⟨fun after cause reached selected failed => ?_,
    fun history after devices options notify error run failed => ?_⟩
  · have keeps := (SimulatedDevice.refused_of_loadModule reached.ordered selected failed).keeps
      reached.ordered
    exact ⟨keeps, keeps.untouched_iff⟩
  · cases outcome : buildProgram program devices options notify host with
    | ok _ later =>
      have done : step (.buildProgram program devices options notify) host =
          (.ok .nothing, later) := step_of_ok (Action.bind_of_ok outcome)
      rw [done] at failed
      cases failed
    | error cause later =>
      have refused : step (.buildProgram program devices options notify) host =
          (.error cause, later) := step_of_error (Action.bind_of_error outcome)
      rw [refused] at failed
      cases failed
      exact buildProgram_left run.regular outcome

/-- Two variables of four bytes, on a device with room for one. -/
def cramped : SimulatedDevice :=
  SimulatedDevice.Request.select.perform (.new 1 (.gpu "a" 6))

/-- A module of these variables. -/
def pairOfFours : KernelModule where
  name := "m"
  kernels := []
  globals := [⟨"g", 4, none⟩, ⟨"h", 4, none⟩]
  source :=
    "\x7b\"globals\":[\x7b\"name\":\"g\",\"size\":4\x7d,\x7b\"name\":\"h\",\"size\":4\x7d]\x7d"

theorem reached_cramped : cramped.Reached := .asked (.new 1 (.gpu "a" 6)) .select

theorem loadModule_cramped :
    ∃ cause after, SimulatedDevice.loadModule pairOfFours cramped = .error cause after := by
  have refused : (match SimulatedDevice.loadModule pairOfFours cramped with
    | .ok _ _ => true
    | .error _ _ => false) = false := by decide +kernel
  cases outcome : SimulatedDevice.loadModule pairOfFours cramped with
  | ok _ after =>
    rw [outcome] at refused
    cases refused
  | error cause after => exact ⟨cause, after, rfl⟩

/-- A program with this text, built for a device with room and for one without. -/
def buildingPair : List Call :=
  [.platformIds, .createContext [⟨0, 1⟩, ⟨1, 1⟩] false, .createProgram ⟨0, 1⟩ [pairOfFours.source]]

/-- The first variable stays on the device that has no room for the second; the device that loaded
both is as it was. -/
theorem failed_loads_leave_cramped :
    (∃ cause after, SimulatedDevice.loadModule pairOfFours cramped = .error cause after ∧
      cramped.Keeps [⟨"g", 4, none⟩] after) ∧
    ∃ error after, step (.buildProgram ⟨0, 1⟩ none none false)
        (run buildingPair (twin 64 6)).2 = (.error error, after) ∧
      BuildLeft ⟨0, 1⟩ (run buildingPair (twin 64 6)).2 after error ∧
      (after.backend? ⟨0, 1⟩).map (fun device => device.heap.used) = some 0 ∧
      (after.backend? ⟨1, 1⟩).map (fun device => device.heap.used) = some 4 := by
  obtain ⟨loads, builds⟩ := failed_loads_leave cramped pairOfFours
    (run buildingPair (twin 64 6)).2 ⟨0, 1⟩
  constructor
  · have placed : cramped.placed pairOfFours.globals = [⟨"g", 4, none⟩] := by decide +kernel
    obtain ⟨cause, after, failed⟩ := loadModule_cramped
    have keeps := (loads after cause reached_cramped rfl failed).1
    rw [placed] at keeps
    exact ⟨cause, after, failed, keeps⟩
  · have refused : (step (.buildProgram ⟨0, 1⟩ none none false)
        (run buildingPair (twin 64 6)).2).1.isOk = false := by decide +kernel
    have first : ((step (.buildProgram ⟨0, 1⟩ none none false)
        (run buildingPair (twin 64 6)).2).2.backend? ⟨0, 1⟩).map
        (fun device => device.heap.used) = some 0 := by decide +kernel
    have second : ((step (.buildProgram ⟨0, 1⟩ none none false)
        (run buildingPair (twin 64 6)).2).2.backend? ⟨1, 1⟩).map
        (fun device => device.heap.used) = some 4 := by decide +kernel
    cases outcome : step (.buildProgram ⟨0, 1⟩ none none false)
      (run buildingPair (twin 64 6)).2 with
    | mk result after =>
      rw [outcome] at refused first second
      cases result with
      | ok answer => cases refused
      | error error =>
        exact ⟨error, after, rfl,
          builds _ _ _ _ _ _ (run_twin 64 6 buildingPair) outcome, first, second⟩

/-- Loads that fail are not undone. -/
theorem not_undone :
    ¬ ∀ (device after : SimulatedDevice) (module : KernelModule) (cause : DeviceError),
      device.Reached → device.selected = true →
      (DeviceDriver.loadModule module : DeviceAction SimulatedDevice Unit) device =
        .error cause after → device.Untouched after := by
  intro claim
  obtain ⟨cause, after, failed⟩ := loadModule_cramped
  have before : cramped.heap.used = 0 := by decide +kernel
  have later : (Action.final (SimulatedDevice.loadModule pairOfFours cramped)).heap.used = 4 := by
    decide +kernel
  have same := (claim cramped after pairOfFours cause reached_cramped rfl failed).used
  rw [failed] at later
  rw [before] at same
  exact absurd (same.symm.trans later) (by decide)

end Host

end ComputeHost
