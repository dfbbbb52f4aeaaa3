/-
**Devices in use.**

A device gives back whatever it is asked to, storage of global variables as well, so a device in use
need not hold all the storage of its modules. What it does keep (`SimulatedDevice.Orderly`): every
global variable of a module has a place of its own, and what is still live there is storage of that
variable. An address is not used again, so a place that was freed stays empty.

* `Orderly.perform` — one request keeps it.
* `Reached.orderly` — so every device in use has it.
* `Sound.orderly` — a device that holds all storage has it.
-/

import ComputeHost.Proofs.Device.Modules
import ComputeHost.Proofs.Device.Windows

namespace ComputeHost

namespace Heap

variable {heap after : Heap} {globals : List GlobalVariable} {places : List (String × Address)}

/-- Each of the variables has a place under its name, where nothing but its storage is live. -/
def Reserves (heap : Heap) (globals : List GlobalVariable) (places : List (String × Address)) :
    Prop :=
  List.Forall₂ (fun global place => place.1 = global.name ∧ place.2.value < heap.next ∧
    ∀ content, heap.content? place.2 = some content →
      content.residency = .global ∧ content.bytes.length = global.size)
    globals places

/-- What is live where a block was has its size and residency. -/
theorem Descends.content? (descends : heap.Descends after) {address : Address} {content : Content}
    (below : address.value < heap.next) (live : after.content? address = some content) :
    ∃ old, heap.content? address = some old ∧ old.residency = content.residency ∧
      old.bytes.length = content.bytes.length := by
  rcases descends.old address below with same | gone
  · rw [info?_eq, info?_eq, live, Option.map_some] at same
    obtain ⟨old, held, facts⟩ := Option.map_eq_some_iff.mp same.symm
    simp only [Allocation.mk.injEq, true_and] at facts
    exact ⟨old, held, facts.2, facts.1⟩
  · rw [info?_eq, live] at gone
    cases gone

theorem Reserves.mono (reserves : heap.Reserves globals places) (descends : heap.Descends after) :
    after.Reserves globals places := by
  refine List.Forall₂.imp (fun global place facts => ?_) reserves
  obtain ⟨name, below, storage⟩ := facts
  refine ⟨name, Nat.lt_of_lt_of_le below descends.next_le, fun content live => ?_⟩
  obtain ⟨old, held, kind, length⟩ := descends.content? below live
  obtain ⟨isGlobal, size⟩ := storage old held
  exact ⟨kind.symm.trans isGlobal, length.symm.trans size⟩

theorem Reserves.lt_next (reserves : heap.Reserves globals places) {address : Address}
    (member : address ∈ places.map Prod.snd) : address.value < heap.next := by
  induction reserves with
  | nil => cases member
  | cons first _ ih =>
    rcases List.mem_cons.mp member with rfl | later
    · exact first.2.1
    · exact ih later

/-- The place of a variable is that of the first variable of the name. -/
theorem Reserves.of_lookup (reserves : heap.Reserves globals places) {symbol : String}
    {address : Address} (placed : places.lookup symbol = some address) :
    ∃ global, globals.find? (fun global => symbol == global.name) = some global ∧
      ∀ content, heap.content? address = some content →
        content.residency = .global ∧ content.bytes.length = global.size := by
  induction reserves with
  | nil => cases placed
  | @cons global place globals places first rest ih =>
    obtain ⟨name, here⟩ := place
    obtain ⟨rfl, _, storage⟩ := first
    rw [List.lookup_cons] at placed
    rw [List.find?_cons]
    cases same : symbol == global.name with
    | true =>
      rw [same] at placed
      obtain rfl := Option.some.inj placed
      exact ⟨global, rfl, storage⟩
    | false =>
      rw [same] at placed
      exact ih placed

/-- What is stored is stored in places of its own. -/
theorem Stores.reserves (stores : heap.Stores globals places) (ordered : heap.Ordered) :
    heap.Reserves globals places := by
  refine List.Forall₂.imp (fun global place facts => ?_) stores
  obtain ⟨name, bytes, live, length⟩ := facts
  refine ⟨name, ordered.lt_next live, fun content there => ?_⟩
  obtain rfl := Option.some.inj (live.symm.trans there)
  exact ⟨rfl, length⟩

end Heap

namespace SimulatedDevice

open ComputeHost.Action

variable {device after : SimulatedDevice}

/-- A device in use. -/
structure Orderly (device : SimulatedDevice) : Prop where
  ordered : device.heap.Ordered
  /-- The global variables of every module have their places. -/
  reserved : ∀ loaded ∈ device.modules,
    device.heap.Reserves loaded.module.globals loaded.globals
  /-- No two global variables share a place. -/
  apart : device.storage.Nodup

theorem Sound.orderly (sound : device.Sound) : device.Orderly :=
  ⟨sound.ordered, fun loaded member => (sound.stored loaded member).reserves sound.ordered,
    sound.apart⟩

/-- All places lie below the next address. -/
theorem Orderly.lt_next (orderly : device.Orderly) {address : Address}
    (member : address ∈ device.storage) : address.value < device.heap.next := by
  obtain ⟨loaded, held, among⟩ := List.mem_flatMap.mp member
  exact (orderly.reserved loaded held).lt_next among

/-- Fewer modules keep the places that they had. -/
theorem Orderly.of_sublist (orderly : device.Orderly) (ordered : after.heap.Ordered)
    (descends : device.heap.Descends after.heap) (modules : after.modules.Sublist device.modules) :
    after.Orderly := by
  refine ⟨ordered, fun loaded member => ?_, orderly.apart.sublist (modules.flatMap _)⟩
  exact (orderly.reserved loaded (modules.subset member)).mono descends

/-- A new module has its places where no block was. -/
theorem Orderly.push (orderly : device.Orderly) {module : KernelModule}
    (storing : device.heap.Storing module.globals after.heap)
    (descends : device.heap.Descends after.heap)
    (modules : after.modules =
      device.modules ++ [⟨module, Heap.placesFrom device.heap.next module.globals⟩]) :
    after.Orderly := by
  refine ⟨storing.ordered, ?_, ?_⟩
  · rw [modules]
    intro loaded member
    rcases List.mem_append.mp member with old | last
    · exact (orderly.reserved loaded old).mono descends
    · obtain rfl := List.mem_singleton.mp last
      exact (storing.stores orderly.ordered).reserves storing.ordered
  · unfold storage
    rw [modules, List.flatMap_append, List.flatMap_singleton, List.nodup_append]
    refine ⟨orderly.apart, storing.distinct, fun address member other last => ?_⟩
    rintro rfl
    rw [Heap.map_snd_placesFrom] at last
    obtain ⟨entry, new, rfl⟩ := List.mem_map.mp last
    exact absurd (orderly.lt_next member) (Nat.not_lt.mpr (Heap.mem_storageFrom new).1)

/-! ### The storage of a global variable -/

/-- The storage that a device gives is live, and as long as the variable. -/
theorem Orderly.globalAllocation?_inv (orderly : device.Orderly) {name symbol : String}
    {allocation : Allocation}
    (found : device.globalAllocation? name symbol = some allocation) :
    ∃ loaded global bytes, device.loaded? name = some loaded ∧
      loaded.module.globals.find? (fun global => symbol == global.name) = some global ∧
      (symbol, allocation.address) ∈ loaded.globals ∧
      device.heap.content? allocation.address = some ⟨.global, bytes⟩ ∧
      bytes.length = allocation.size ∧ allocation.size = global.size := by
  unfold globalAllocation? at found
  obtain ⟨loaded, held, found⟩ := Option.bind_eq_some_iff.mp found
  obtain ⟨address, placed, described⟩ := Option.bind_eq_some_iff.mp found
  have member : loaded ∈ device.modules := List.mem_of_find?_eq_some held
  obtain ⟨global, named, storage⟩ := (orderly.reserved loaded member).of_lookup placed
  rw [Heap.info?_eq] at described
  obtain ⟨⟨residency, bytes⟩, live, rfl⟩ := Option.map_eq_some_iff.mp described
  obtain ⟨rfl, length⟩ := storage _ live
  exact ⟨loaded, global, bytes, held, named, mem_of_lookup placed, live, rfl, length⟩

/-- No two global variables of a device have one address. -/
theorem Orderly.globals_apart (orderly : device.Orderly) {name symbol other second : String}
    {one two : Allocation} (first : device.globalAllocation? name symbol = some one)
    (last : device.globalAllocation? other second = some two)
    (same : one.address = two.address) : name = other ∧ symbol = second := by
  obtain ⟨loaded, _, _, held, _, here, _⟩ := orderly.globalAllocation?_inv first
  obtain ⟨loaded', _, _, held', _, there, _⟩ := orderly.globalAllocation?_inv last
  have member := List.mem_of_find?_eq_some held
  have among := List.mem_of_find?_eq_some held'
  have agree : loaded = loaded' := by
    by_contra differ
    refine disjoint_of_apart orderly.apart member among differ one.address
      (List.mem_map_of_mem here) ?_
    rw [same]
    exact List.mem_map_of_mem there
  subst agree
  have named : loaded.module.name = name := by simpa using List.find?_some held
  have named' : loaded.module.name = other := by simpa using List.find?_some held'
  have distinct := (List.nodup_flatMap.mp orderly.apart).1 loaded member
  exact ⟨named.symm.trans named',
    congrArg Prod.fst (List.inj_on_of_nodup_map distinct here there same)⟩

/-! ### Requests -/

/-- No module was added. -/
def Strips (device after : SimulatedDevice) : Prop := after.modules.Sublist device.modules

theorem strips_compositional : Compositional Strips where
  refl _ := .refl _
  trans first second := second.trans first
  refused _ _ := .refl _

theorem strips_free (address : Address) : Within Strips (free address) :=
  strips_compositional.free fun _ _ _ => .refl _

theorem strips_allocateAs (residency : Residency) (size : Nat) :
    Within Strips (allocateAs residency size) :=
  strips_compositional.allocateAs fun _ _ _ _ => .refl _

namespace Request

/-- Only loading adds a module. -/
theorem strips_or_loads (device : SimulatedDevice) (request : Request) :
    device.Strips (request.perform device) ∨ ∃ module, request = .loadModule module := by
  cases request with
  | loadModule module => exact .inr ⟨module, rfl⟩
  | unloadModule name =>
    exact .inl (strips_compositional.unloadModule strips_free (fun _ => List.filter_sublist)
      (fun _ => .refl _) device)
  | allocate size => exact .inl (strips_allocateAs .deviceOnly size device)
  | allocateHost size flags => exact .inl (strips_allocateAs (.hostVisible flags) size device)
  | free address => exact .inl (strips_free address device)
  | write address offset data =>
    exact .inl (strips_compositional.write (fun _ _ _ => .refl _) device)
  | read address offset length =>
    exact .inl (strips_compositional.read address offset length device)
  | createStream => exact .inl (strips_compositional.createStream (fun _ => .refl _) device)
  | launch request =>
    exact .inl (strips_compositional.launch (fun _ => .refl _) (fun _ _ => .refl _) request device)
  | release => exact .inl (List.nil_sublist _)
  | select | unselect | setOptimization | hostView | allocations | globalAllocation | turn =>
    exact .inl (.refl _)

end Request

/-- A module that is loaded already is not loaded again. -/
theorem loadModule_of_loaded (selected : device.selected = true) {module : KernelModule}
    {loaded : LoadedModule} (held : device.loaded? module.name = some loaded) :
    loadModule module device = .ok () device := by
  have got : (get : DeviceAction SimulatedDevice SimulatedDevice) device = .ok device device := rfl
  have known : ¬ (device.loaded? module.name).isNone = true := by simp [held]
  unfold loadModule
  rw [bind_of_ok (ensureSelected_of_selected selected), bind_of_ok got, if_neg known]
  rfl

/-- Loading leaves the modules as they are, or adds the module with places for its variables. -/
theorem loadModule_adds (ordered : device.heap.Ordered) (module : KernelModule) :
    (final (loadModule module device)).modules = device.modules ∨
      device.heap.Storing module.globals (final (loadModule module device)).heap ∧
      (final (loadModule module device)).modules =
        device.modules ++ [⟨module, Heap.placesFrom device.heap.next module.globals⟩] := by
  cases selected : device.selected with
  | false =>
    left
    unfold loadModule
    rw [bind_of_error (ensureSelected_of_unselected selected)]
    rfl
  | true =>
    cases held : device.loaded? module.name with
    | some loaded =>
      left
      rw [loadModule_of_loaded selected held]
      rfl
    | none =>
      rcases loadModule_run selected ordered module held with
        ⟨cause, heap, failed, _⟩ | ⟨after, done, storing, modules⟩
      · left
        rw [failed]
        rfl
      · right
        rw [done]
        exact ⟨storing, modules⟩

/-- **Whatever is asked of a device in use**, every variable keeps its place. -/
theorem Orderly.perform (orderly : device.Orderly) (request : Request) :
    (request.perform device).Orderly := by
  have ordered := (Request.perform_heap orderly.ordered request).1
  have descends := Request.perform_descends orderly.ordered request
  rcases request.strips_or_loads device with strips | ⟨module, rfl⟩
  · exact orderly.of_sublist ordered descends strips
  · rcases loadModule_adds orderly.ordered module with same | ⟨storing, added⟩
    · refine orderly.of_sublist ordered descends ?_
      rw [show ((Request.loadModule module).perform device).modules = device.modules from same]
    · exact orderly.push storing descends added

theorem Reached.orderly (reached : Reached device) : device.Orderly := by
  induction reached with
  | new number properties => exact (sound_new number properties).orderly
  | asked _ request orderly => exact orderly.perform request

end SimulatedDevice

end ComputeHost
