/-
**Loading and unloading modules.**

Loading a module under a new name and taking it off again touch that module only: the other
modules, their entries in the table and the data of every device stay (`Relinked`).

* `SimulatedDevice.besides` — what a device holds besides the storage of one module; loading and
  unloading that module change nothing of it.
* `unregisterModule_run` — a registered module is taken off every device; this never fails.
* `loadOnAll_run` — a module is loaded on all devices asked for, or no device has it any more.
-/

import ComputeHost.Proofs.Host.Regular

namespace ComputeHost

namespace SimulatedDevice

variable {device middle after : SimulatedDevice} {name : String}

/-- The modules but one. -/
def modulesBut (device : SimulatedDevice) (name : String) : List LoadedModule :=
  device.modules.filter fun loaded => loaded.module.name ≠ name

/-- The data, and the modules but one, are as they were. -/
structure AlikeBut (name : String) (device after : SimulatedDevice) : Prop where
  sound : device.Sound → after.Sound
  modules : after.modulesBut name = device.modulesBut name
  data : ∀ address, after.heap.data? address = device.heap.data? address

theorem AlikeBut.refl (name : String) (device : SimulatedDevice) : AlikeBut name device device :=
  ⟨id, rfl, fun _ => rfl⟩

theorem AlikeBut.trans (first : AlikeBut name device middle) (second : AlikeBut name middle after) :
    AlikeBut name device after :=
  ⟨second.sound ∘ first.sound, second.modules.trans first.modules,
    fun address => (second.data address).trans (first.data address)⟩

theorem Alike.alikeBut (alike : device.Alike after) : AlikeBut name device after :=
  ⟨alike.sound, by unfold modulesBut; rw [alike.modules], alike.data⟩

theorem Loaded.alikeBut {module : KernelModule} (loaded : device.Loaded module after)
    (sound : device.Sound) : AlikeBut module.name device after := by
  refine ⟨fun _ => loaded.sound, ?_, (loaded.heap.extended sound.ordered).data?_eq sound.ordered⟩
  unfold modulesBut
  rw [loaded.modules, List.filter_append]
  simp

theorem Unloaded.alikeBut (unloaded : device.Unloaded name after) : AlikeBut name device after := by
  refine ⟨fun _ => unloaded.sound, ?_, unloaded.data⟩
  unfold modulesBut
  rw [unloaded.modules, List.filter_filter]
  simp

/-- A device without the module that may have changed is as it was. -/
theorem AlikeBut.alike (alikeBut : AlikeBut name device after)
    (before : device.loaded? name = none) (later : after.loaded? name = none) :
    device.Alike after := by
  have same : ∀ one : SimulatedDevice, one.loaded? name = none →
      one.modulesBut name = one.modules := by
    intro one absent
    refine List.filter_eq_self.mpr fun loaded member => ?_
    simpa using List.find?_eq_none.mp absent loaded member
  refine ⟨alikeBut.sound, ?_, alikeBut.data⟩
  rw [← same after later, ← same device before, alikeBut.modules]

theorem loaded?_eq_none_of_modules
    (modules : after.modules = device.modulesBut name) : after.loaded? name = none := by
  unfold loaded?
  rw [List.find?_eq_none, modules]
  intro loaded member
  simpa using (List.mem_filter.mp member).2

/-- What is live at an address, unless it is the storage of the module of a name. -/
def besides (device : SimulatedDevice) (name : String) (address : Address) : Option Content :=
  if address ∈ device.storageOf name then none else device.heap.content? address

theorem besides_of_none (absent : device.loaded? name = none) (address : Address) :
    device.besides name address = device.heap.content? address := by
  unfold besides storageOf
  rw [absent]
  exact if_neg List.not_mem_nil

theorem Unloaded.besides_eq (unloaded : device.Unloaded name after) (address : Address) :
    after.besides name address = device.besides name address := by
  rw [besides_of_none (loaded?_eq_none_of_modules unloaded.modules), unloaded.content]
  rfl

/-- The storage of a module is all that loading it adds. -/
theorem Loaded.besides_eq {module : KernelModule} (loaded : device.Loaded module after)
    (sound : device.Sound) (new : device.loaded? module.name = none) (address : Address) :
    after.besides module.name address = device.besides module.name address := by
  have found : after.loaded? module.name =
      some ⟨module, Heap.placesFrom device.heap.next module.globals⟩ := by
    unfold loaded? at new ⊢
    rw [loaded.modules, List.find?_append, new]
    simp
  have storage : after.storageOf module.name =
      (Heap.storageFrom device.heap.next module.globals).map Prod.fst := by
    unfold storageOf
    rw [found]
    exact Heap.map_snd_placesFrom _ _
  rw [besides_of_none new]
  unfold besides
  rw [storage]
  split
  · rename_i member
    obtain ⟨entry, among, rfl⟩ := List.mem_map.mp member
    exact (sound.ordered.content?_of_next_le (Heap.mem_storageFrom among).1).symm
  · rename_i outside
    refine Option.ext fun content => (loaded.heap.content?_iff sound.ordered).trans
      (or_iff_left fun new => outside ?_)
    exact List.mem_map_of_mem new

end SimulatedDevice

namespace Host

variable {host before middle after : Host SimulatedDevice} {name : String}
  {handle : DeviceHandle}

/-- What is live at an address of a device, unless it is the storage of the module of a name. -/
def besides (host : Host SimulatedDevice) (name : String) (handle : DeviceHandle)
    (address : Address) : Option Content :=
  (host.backend? handle).bind fun device => device.besides name address

/-- Nothing is hidden on a device that does not have the module. -/
theorem besides_of_none {device : SimulatedDevice} (found : host.backend? handle = some device)
    (absent : device.loaded? name = none) (address : Address) :
    host.besides name handle address = host.content? handle address := by
  unfold besides content?
  rw [found]
  exact SimulatedDevice.besides_of_none absent address

/-- A replaced device holds the same besides one module. -/
theorem besides_setBackend {target : DeviceHandle} {device changed : SimulatedDevice}
    (found : host.backend? target = some device)
    (same : ∀ address, changed.besides name address = device.besides name address)
    (handle : DeviceHandle) (address : Address) :
    (host.setBackend target changed).besides name handle address =
      host.besides name handle address := by
  unfold besides
  rw [backend?_setBackend]
  by_cases here : handle = target
  · subst here
    rw [if_pos rfl, found]
    exact same address
  · rw [if_neg here]

/-! ### Unloading -/

/-- Unloading a module from live devices never fails. -/
theorem unloadFrom_run (name : String) {devices : List DeviceHandle}
    (sound : ∀ handle device, host.backend? handle = some device → device.Sound)
    (live : ∀ handle ∈ devices, (host.backend? handle).isSome) :
    ∃ after, unloadFrom name devices host = .ok () after ∧
      Across (SimulatedDevice.AlikeBut name) host after ∧
      (∀ handle address, after.besides name handle address = host.besides name handle address) ∧
      ∀ handle device, after.backend? handle = some device →
        (handle ∈ devices ∨ ∃ one, host.backend? handle = some one ∧ one.loaded? name = none) →
          device.loaded? name = none := by
  induction devices generalizing host with
  | nil =>
    refine ⟨host, rfl, .refl (SimulatedDevice.AlikeBut.refl name) host, fun _ _ => rfl,
      fun handle device found gone => ?_⟩
    rcases gone with member | ⟨one, here, absent⟩
    · cases member
    · obtain rfl := Option.some.inj (found.symm.trans here)
      exact absent
  | cons target rest ih =>
    obtain ⟨backend, found⟩ := Option.isSome_iff_exists.mp (live target (List.mem_cons_self ..))
    obtain ⟨changed, done, unloaded⟩ :=
      SimulatedDevice.selected_unloadModule (sound target backend found) name
    have across : Across (SimulatedDevice.AlikeBut name) host (host.setBackend target changed) :=
      .setBackend (SimulatedDevice.AlikeBut.refl name) found unloaded.alikeBut
    have sound' : ∀ handle device, (host.setBackend target changed).backend? handle = some device →
        device.Sound := by
      intro handle device there
      obtain ⟨one, here, alike⟩ := across.each.some_of there
      exact alike.sound (sound handle one here)
    obtain ⟨after, ran, more, same, gone⟩ := ih sound' fun handle member => by
      rw [across.each.isSome_eq]
      exact live handle (List.mem_cons_of_mem _ member)
    refine ⟨after, (Action.bind_of_ok (onDevice_of_ok found done)).trans ran,
      across.trans (fun _ _ _ => SimulatedDevice.AlikeBut.trans) more,
      fun handle address => (same handle address).trans
        (besides_setBackend found unloaded.besides_eq handle address),
      fun handle device there asked => gone handle device there ?_⟩
    -- the module is gone from the first device, and was not on others that need no unloading
    have cleared : changed.loaded? name = none :=
      SimulatedDevice.loaded?_eq_none_of_modules unloaded.modules
    rw [backend?_setBackend]
    by_cases here : handle = target
    · right
      rw [if_pos here, found]
      exact ⟨changed, rfl, cleared⟩
    · rw [if_neg here]
      refine asked.imp_left fun member => ?_
      exact (List.mem_cons.mp member).resolve_left here

/-- Every device behind a host is listed among its handles. -/
theorem mem_handles_of_backend? {device : SimulatedDevice}
    (found : host.backend? handle = some device) : handle ∈ host.registry.devices.handles := by
  obtain ⟨entry, live, _⟩ := Option.map_eq_some_iff.mp found
  exact Arena.mem_handles_of_get? live

theorem backend?_of_mem_handles (packed : host.registry.devices.Packed)
    (listed : handle ∈ host.registry.devices.handles) : (host.backend? handle).isSome := by
  unfold backend?
  rw [Option.isSome_map]
  exact packed.contains_of_mem_handles listed

/-- The devices have all modules but one as they were, and neither that one nor its storage. -/
structure Stripped (name : String) (before after : Host SimulatedDevice) : Prop where
  across : Across (SimulatedDevice.AlikeBut name) before after
  gone : ∀ handle device, after.backend? handle = some device → device.loaded? name = none
  content : ∀ handle address, after.content? handle address = before.besides name handle address

theorem unregisterModule_of_unknown (unknown : host.modules.find? name = none) :
    unregisterModule name host = .error (.moduleNotFound name) host := by
  have got : (get : HostAction SimulatedDevice (Host SimulatedDevice)) host = .ok host host := rfl
  have absent : (host.modules.find? name).isNone = true := by
    rw [unknown]
    rfl
  unfold unregisterModule
  rw [Action.bind_of_ok got, if_pos absent]
  exact Action.bind_of_error rfl

/-- **A registered module is taken off every device**, and then forgotten. -/
theorem unregisterModule_run (packed : host.registry.devices.Packed)
    (sound : ∀ handle device, host.backend? handle = some device → device.Sound)
    {entry : ModuleEntry} (found : host.modules.find? name = some entry) :
    ∃ middle, host.Stripped name middle ∧
      unregisterModule name host =
        .ok () { middle with modules := host.modules.remove name } := by
  obtain ⟨middle, ran, across, besides, cleared⟩ := unloadFrom_run name sound
    fun handle listed => backend?_of_mem_handles packed listed
  have same : middle.modules = host.modules := by
    obtain ⟨devices, rfl⟩ := across.rest
    rfl
  have gone : ∀ handle device, middle.backend? handle = some device →
      device.loaded? name = none := by
    intro handle device there
    obtain ⟨one, here, _⟩ := across.each.some_of there
    exact cleared handle device there (.inl (mem_handles_of_backend? here))
  refine ⟨middle, ⟨across, gone, fun handle address => ?_⟩, ?_⟩
  · rw [← besides]
    cases there : middle.backend? handle with
    | none =>
      unfold content? Host.besides
      rw [there]
      rfl
    | some device => exact (besides_of_none there (gone handle device there) address).symm
  · have known : ¬ (host.modules.find? name).isNone = true := by
      rw [found]
      exact nofun
    have got : (get : HostAction SimulatedDevice (Host SimulatedDevice)) host = .ok host host := rfl
    unfold unregisterModule
    rw [Action.bind_of_ok got, if_neg known, ← same]
    exact Action.bind_of_ok ran

/-! ### Loading -/

/-- What loading modules relies on and leaves in place. -/
structure Linked (host : Host SimulatedDevice) : Prop where
  packed : host.registry.devices.Packed
  sound : ∀ handle device, host.backend? handle = some device → device.Sound
  agrees : host.Agrees

theorem Regular.linked (regular : host.Regular) : host.Linked :=
  ⟨regular.packed.devices, regular.sound, regular.agrees⟩

/-- Nothing but devices, the table and the number of the next build changed, and of devices and
table only what belongs to one name. -/
structure Relinked (name : String) (before after : Host SimulatedDevice) : Prop where
  rest : ∃ devices modules nextBuild, after =
    { before with registry := { before.registry with devices }, modules, nextBuild }
  packed : before.registry.devices.Packed → after.registry.devices.Packed
  each : Each (SimulatedDevice.AlikeBut name) before after
  others : after.modules.remove name = before.modules.remove name

theorem Relinked.refl (name : String) (host : Host SimulatedDevice) : Relinked name host host :=
  ⟨⟨_, _, _, rfl⟩, id, .refl (SimulatedDevice.AlikeBut.refl name) host, rfl⟩

theorem Relinked.trans (first : Relinked name before middle) (second : Relinked name middle after) :
    Relinked name before after := by
  refine ⟨?_, second.packed ∘ first.packed,
    first.each.trans (fun _ _ _ => SimulatedDevice.AlikeBut.trans) second.each,
    second.others.trans first.others⟩
  obtain ⟨devices, modules, nextBuild, rfl⟩ := first.rest
  obtain ⟨devices', modules', nextBuild', rfl⟩ := second.rest
  exact ⟨devices', modules', nextBuild', rfl⟩

theorem Relinked.of_across (across : Across (SimulatedDevice.AlikeBut name) before after)
    {modules : ModuleTable} (others : modules.remove name = before.modules.remove name) :
    Relinked name before { after with modules } := by
  obtain ⟨devices, same⟩ := across.rest
  exact ⟨⟨devices, modules, before.nextBuild, by rw [same]⟩, across.packed, across.each, others⟩

theorem Stripped.relinked (stripped : before.Stripped name after) :
    Relinked name before { after with modules := before.modules.remove name } :=
  .of_across stripped.across ModuleTable.remove_remove

/-- Modules are no data. -/
theorem Relinked.data?_eq (relinked : Relinked name before after) (handle : DeviceHandle)
    (address : Address) : after.data? handle address = before.data? handle address := by
  unfold data?
  rcases relinked.each handle with ⟨here, there⟩ | ⟨one, other, here, there, alike⟩
  · rw [here, there]
  · rw [here, there]
    exact alike.data address

theorem Relinked.sound (relinked : Relinked name before after)
    (sound : ∀ handle device, before.backend? handle = some device → device.Sound) :
    ∀ handle device, after.backend? handle = some device → device.Sound := by
  intro handle device found
  obtain ⟨one, here, alike⟩ := relinked.each.some_of found
  exact alike.sound (sound handle one here)

/-- The table says of a device what its own list says. -/
theorem Linked.has_iff (linked : host.Linked) {device : SimulatedDevice}
    (found : host.backend? handle = some device) {module : KernelModule} :
    host.modules.Has module handle ↔ ∃ loaded ∈ device.modules, loaded.module = module := by
  have held : host.modulesOn handle = some (device.modules.map LoadedModule.module) := by
    unfold modulesOn
    rw [found]
    rfl
  rw [← linked.agrees.held handle _ held module, List.mem_map]

/-- A module that is not marked on a device is not there under its name. -/
theorem Linked.loaded?_eq_none (linked : host.Linked) {device : SimulatedDevice}
    (found : host.backend? handle = some device) {entry : ModuleEntry}
    (registered : host.modules.find? name = some entry) (unmarked : handle ∉ entry.loadedOn) :
    device.loaded? name = none := by
  unfold SimulatedDevice.loaded?
  rw [List.find?_eq_none]
  intro loaded member same
  obtain ⟨other, among, alike, marked⟩ := (linked.has_iff found).mpr ⟨loaded, member, rfl⟩
  obtain ⟨here, named⟩ := ModuleTable.mem_of_find? registered
  have names : other.module.name = entry.module.name := by
    rw [alike, named]
    simpa using same
  rw [linked.agrees.named.eq_of_name among here names] at marked
  exact unmarked marked

/-- A registered module that is marked on a device is found there by its name. -/
theorem Linked.loaded?_eq_some (linked : host.Linked) {name : String} {entry : ModuleEntry}
    (registered : host.modules.find? name = some entry) {handle : DeviceHandle}
    (marked : handle ∈ entry.loadedOn) :
    ∃ device loaded, host.backend? handle = some device ∧ device.loaded? name = some loaded ∧
      loaded.module = entry.module := by
  obtain ⟨member, named⟩ := ModuleTable.mem_of_find? registered
  have has : host.modules.Has entry.module handle := ⟨entry, member, rfl, marked⟩
  have live := linked.agrees.live entry.module handle has
  rw [modulesOn_isSome] at live
  obtain ⟨device, found⟩ := Option.isSome_iff_exists.mp live
  refine ⟨device, ?_⟩
  cases known : device.loaded? name with
  | none =>
    obtain ⟨loaded, among, same⟩ := (linked.has_iff found).mp has
    have other := List.find?_eq_none.mp known loaded among
    rw [same, named] at other
    exact absurd (beq_self_eq_true name) other
  | some loaded =>
    -- what goes by the name on the device goes by it in the table
    have among := List.mem_of_find?_eq_some known
    have called : loaded.module.name = name := by simpa using List.find?_some known
    obtain ⟨other, listed, same, _⟩ := (linked.has_iff found).mpr ⟨loaded, among, rfl⟩
    have equal := linked.agrees.named.eq_of_name listed member (by rw [same, called, named])
    exact ⟨loaded, found, rfl, by rw [← same, equal]⟩

/-- Marking a module that a device has just loaded keeps table and devices in agreement. -/
theorem Linked.mark (linked : host.Linked) {device changed : SimulatedDevice}
    (found : host.backend? handle = some device) {entry : ModuleEntry}
    (registered : host.modules.find? name = some entry)
    (loaded : device.Loaded entry.module changed) :
    { host.setBackend handle changed with
      modules := host.modules.markLoaded name handle }.Linked := by
  have modules := loaded.modules
  have view : ∀ place, (host.setBackend handle changed).modulesOn place =
      if place = handle then some (device.modules.map LoadedModule.module ++ [entry.module])
      else host.modulesOn place := by
    intro place
    unfold modulesOn
    rw [backend?_setBackend, found]
    split
    · simp [modules]
    · rfl
  have held : host.modulesOn handle = some (device.modules.map LoadedModule.module) := by
    unfold modulesOn
    rw [found]
    rfl
  refine ⟨linked.packed.modify _ _, fun place other there => ?_,
    linked.agrees.named.markLoaded _ _, fun module place has => ?_, fun place list there => ?_⟩
  · have stands : (host.setBackend handle changed).backend? place = some other := there
    rw [backend?_setBackend, found] at stands
    split at stands
    · cases stands
      exact loaded.sound
    · exact linked.sound place other stands
  · show ((host.setBackend handle changed).modulesOn place).isSome
    rw [view]
    split
    · rfl
    · rename_i differ
      rcases (linked.agrees.named.has_markLoaded registered).mp has with old | ⟨same, _⟩
      · exact linked.agrees.live module place old
      · exact absurd same differ
  · have stands : (host.setBackend handle changed).modulesOn place = some list := there
    intro module
    show module ∈ list ↔ (host.modules.markLoaded name handle).Has module place
    rw [linked.agrees.named.has_markLoaded registered]
    rw [view] at stands
    split at stands
    · rename_i same
      subst same
      cases stands
      rw [List.mem_append, List.mem_singleton, linked.agrees.held place _ held]
      simp
    · rename_i differ
      rw [linked.agrees.held place list stands]
      simp [differ]

/-- The module of an entry, loaded on the devices of the entry and perhaps on more. -/
def Grows (name : String) (entry : ModuleEntry) (after : Host SimulatedDevice) : Prop :=
  ∃ later, after.modules.find? name = some later ∧ later.module = entry.module ∧
    ∀ handle ∈ entry.loadedOn, handle ∈ later.loadedOn

/-- How loading a module on a device fails: the device is not live, or it refuses, and keeps the
storage that it made before it did. -/
inductive LoadFailed (module : KernelModule) (target : DeviceHandle)
    (host : Host SimulatedDevice) : HostError → Host SimulatedDevice → Prop
  | dead (absent : host.backend? target = none) :
      LoadFailed module target host (.invalidHandle .device) host
  | refused {device later : SimulatedDevice} {cause : DeviceError}
      (found : host.backend? target = some device) (new : device.loaded? module.name = none)
      (refused : device.Refused module later)
      (short : (∀ global ∈ module.globals, Document.fitsInitial global = true) →
        ∃ requested available, cause = .outOfMemory requested available) :
      LoadFailed module target host (.device cause) (host.setBackend target later)

/-- A load that fails changes no module and no data. -/
theorem LoadFailed.across {module : KernelModule} {target : DeviceHandle} {error : HostError}
    (failed : LoadFailed module target host error after)
    (sound : ∀ handle device, host.backend? handle = some device → device.Sound) :
    Across SimulatedDevice.Alike host after := by
  cases failed with
  | dead _ => exact .refl SimulatedDevice.Alike.refl host
  | refused found _ refused _ =>
    have good := sound target _ found
    exact .setBackend SimulatedDevice.Alike.refl found
      (.of_extended good refused.modules (refused.heap.extended good.ordered))

/-- **Loading a registered module on a device** marks it there, and changes no other device and
nothing else of this one, or fails. -/
theorem loadOn_run (linked : host.Linked) {entry : ModuleEntry}
    (registered : host.modules.find? name = some entry) (target : DeviceHandle) :
    (∃ error after, loadOn name target host = .error error after ∧
      LoadFailed entry.module target host error after) ∨
    ∃ after, loadOn name target host = .ok () after ∧ Relinked name host after ∧ after.Linked ∧
      Grows name { entry with loadedOn := entry.loadedOn ++ [target] } after ∧
      (∀ handle, handle ≠ target → after.backend? handle = host.backend? handle) ∧
      ∀ handle address, after.besides name handle address = host.besides name handle address := by
  have got : (get : HostAction SimulatedDevice (Host SimulatedDevice)) host = .ok host host := rfl
  unfold loadOn
  rw [Action.bind_of_ok got]
  simp only [registered]
  by_cases marked : entry.loadedOn.contains target = true
  · right
    have skip : ¬ (!entry.loadedOn.contains target) = true := by
      rw [marked]
      exact nofun
    rw [if_neg skip]
    refine ⟨host, rfl, .refl name host, linked, ⟨entry, registered, rfl, fun handle member => ?_⟩,
      fun _ _ => rfl, fun _ _ => rfl⟩
    rcases List.mem_append.mp member with old | new
    · exact old
    · rw [List.mem_singleton.mp new]
      exact List.contains_iff_mem.mp marked
  · have go : (!entry.loadedOn.contains target) = true := by simpa using marked
    rw [if_pos go]
    cases found : host.backend? target with
    | none =>
      left
      exact ⟨_, host, Action.bind_of_error (onDevice_of_none found), .dead found⟩
    | some device =>
      have sound := linked.sound target device found
      obtain ⟨_, named⟩ := ModuleTable.mem_of_find? registered
      have new : device.loaded? entry.module.name = none := by
        rw [named]
        exact linked.loaded?_eq_none found registered fun member =>
          marked (List.contains_iff_mem.mpr member)
      rcases SimulatedDevice.selected_load sound entry.module host.optimization new with
        ⟨cause, changed, failed, refused, short⟩ | ⟨changed, done, loaded⟩
      · left
        exact ⟨_, _, Action.bind_of_error (onDevice_of_error found failed),
          .refused found new refused short⟩
      · right
        have alike : SimulatedDevice.AlikeBut name device changed := named ▸ loaded.alikeBut sound
        have same := loaded.besides_eq sound new
        rw [named] at same
        refine ⟨_, Action.bind_of_ok (onDevice_of_ok found done), ?_,
          linked.mark found registered loaded, ?_, fun handle other => ?_,
          besides_setBackend found same⟩
        · exact .of_across (.setBackend (SimulatedDevice.AlikeBut.refl name) found alike)
            ModuleTable.remove_markLoaded
        · exact ⟨_, linked.agrees.named.find?_markLoaded registered, rfl, fun _ member => member⟩
        · exact (backend?_setBackend host target handle changed).trans (if_neg other)

/-- Taking a module off keeps table and devices in agreement. -/
theorem Linked.strip (linked : host.Linked) (stripped : host.Stripped name middle) :
    { middle with modules := host.modules.remove name }.Linked := by
  refine ⟨stripped.across.packed linked.packed, fun handle device found => ?_,
    linked.agrees.named.remove name, fun module handle has => ?_, fun handle list there => ?_⟩
  · obtain ⟨one, here, alike⟩ := stripped.across.each.some_of found
    exact alike.sound (linked.sound handle one here)
  · have before := linked.agrees.live module handle (ModuleTable.has_remove.mp has).1
    show (middle.modulesOn handle).isSome
    rw [modulesOn_isSome] at before ⊢
    rw [stripped.across.each.isSome_eq]
    exact before
  · have stands : middle.modulesOn handle = some list := there
    obtain ⟨device, found, rfl⟩ := Option.map_eq_some_iff.mp stands
    obtain ⟨one, here, alike⟩ := stripped.across.each.some_of found
    have absent := stripped.gone handle device found
    intro module
    show _ ↔ (host.modules.remove name).Has module handle
    rw [ModuleTable.has_remove, linked.has_iff here, List.mem_map]
    -- the modules of the device are those that were there, but one
    have same : device.modules = one.modulesBut name := by
      rw [← alike.modules]
      refine (List.filter_eq_self.mpr fun loaded member => ?_).symm
      simpa using List.find?_eq_none.mp absent loaded member
    rw [same]
    unfold SimulatedDevice.modulesBut
    simp only [List.mem_filter, decide_eq_true_eq]
    constructor
    · rintro ⟨loaded, ⟨member, differ⟩, rfl⟩
      exact ⟨⟨loaded, member, rfl⟩, differ⟩
    · rintro ⟨⟨loaded, member, rfl⟩, differ⟩
      exact ⟨loaded, ⟨member, differ⟩, rfl⟩

/-- **Loading on all devices** marks the module on each of them; if one fails, the module is gone
from all devices and from the table. -/
theorem loadOnAll_run (linked : host.Linked) {entry : ModuleEntry}
    (registered : host.modules.find? name = some entry) (targets : List DeviceHandle) :
    (∃ error after, loadOnAll name targets host = .error error after ∧ Relinked name host after ∧
      after.modules = host.modules.remove name ∧
      ∀ handle device, after.backend? handle = some device → device.loaded? name = none) ∨
    ∃ after, loadOnAll name targets host = .ok () after ∧ Relinked name host after ∧
      after.Linked ∧
      Grows name { entry with loadedOn := entry.loadedOn ++ targets } after := by
  induction targets generalizing host entry with
  | nil =>
    right
    refine ⟨host, rfl, .refl name host, linked, entry, registered, rfl, fun handle member => ?_⟩
    simpa using member
  | cons target rest ih =>
    unfold loadOnAll
    rcases loadOn_run linked registered target with
      ⟨error, middle, failed, refusal⟩ |
        ⟨middle, done, relinked, linked', ⟨later, found, same, grown⟩, _, _⟩
    · left
      -- what was loaded before is taken off again
      have across := refusal.across linked.sound
      have modules : middle.modules = host.modules := by
        obtain ⟨devices, rfl⟩ := across.rest
        rfl
      have back : Relinked name host { middle with modules := middle.modules } :=
        .of_across (across.imp fun _ _ => SimulatedDevice.Alike.alikeBut) (by rw [modules])
      rw [← modules] at registered
      obtain ⟨final, stripped, removed⟩ := unregisterModule_run (across.packed linked.packed)
        (back.sound linked.sound) registered
      refine ⟨error, { final with modules := middle.modules.remove name }, ?_,
        back.trans stripped.relinked, congrArg (ModuleTable.remove · name) modules, stripped.gone⟩
      simp only [failed]
      unfold attempt
      rw [removed]
    · simp only [done]
      rcases ih linked' found with
        ⟨error, after, failed, more, removed, gone⟩ | ⟨after, ran, more, linked'', final⟩
      · left
        refine ⟨error, after, failed, relinked.trans more, ?_, gone⟩
        rw [removed, relinked.others]
      · right
        obtain ⟨last, found', same', grown'⟩ := final
        refine ⟨after, ran, relinked.trans more, linked'', last, found', same'.trans same,
          fun handle member => grown' handle ?_⟩
        rw [List.append_cons] at member
        rcases List.mem_append.mp member with old | new
        · exact List.mem_append_left _ (grown handle old)
        · exact List.mem_append_right _ new

end Host

end ComputeHost
