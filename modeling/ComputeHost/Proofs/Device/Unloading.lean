/-
**Loading and unloading a module.**

A module that a device loads gets storage for each of its global variables where nothing was before.
The device may be asked for whatever else meanwhile: as long as nothing frees this storage, unloads
this module or gives up the device (`Request.Spares`), the module keeps it (`Houses.perform`), so
unloading finds every block that loading made, and frees these and no others.

* `installed_of_ok` — what loading makes.
* `Houses.foldl` — what stays of it, whatever else is asked.
* `Houses.unloadModule` — what unloading takes away.
* `Reached.loads_and_unloads` — unloading undoes loading.
-/

import ComputeHost.Proofs.Device.Orderly

namespace ComputeHost

/-- Initial contents that fit come first, and zeros after them. -/
theorem GlobalVariable.opening_of_fits {global : GlobalVariable}
    (fits : Document.fitsInitial global = true) :
    global.opening = global.initial.getD [] ++
      Bytes.zeros (global.size - (global.initial.getD []).length) := by
  unfold opening Bytes.splice
  rw [if_pos fits, List.take_zero, List.nil_append, Nat.zero_add, Bytes.zeros, List.drop_replicate]
  rfl

namespace Heap

variable {heap after : Heap} {globals : List GlobalVariable} {places : List (String × Address)}

theorem map_fst_placesFrom (base : Nat) (globals : List GlobalVariable) :
    (placesFrom base globals).map Prod.fst = globals.map GlobalVariable.name := by
  induction globals generalizing base with
  | nil => rfl
  | cons global rest ih => rw [placesFrom, List.map_cons, List.map_cons, ih]

/-- What is stored has the sizes of the variables. -/
theorem Stores.sizes (stores : heap.Stores globals places) :
    places.map (fun place => heap.sizeAt place.2) = globals.map GlobalVariable.size := by
  induction stores with
  | nil => rfl
  | cons first _ ih =>
    obtain ⟨_, bytes, live, size⟩ := first
    rw [List.map_cons, List.map_cons, ih, sizeAt, live, Option.map_some, Option.getD_some, size]

/-- Where a heap describes its places as before, it stores the same variables there. -/
theorem Stores.of_info? (stores : heap.Stores globals places)
    (same : ∀ address ∈ places.map Prod.snd, after.info? address = heap.info? address) :
    after.Stores globals places := by
  refine stores.mono fun address member bytes live => ?_
  have described := same address member
  rw [info?_eq, info?_eq, live, Option.map_some] at described
  obtain ⟨⟨residency, held⟩, there, facts⟩ := Option.map_eq_some_iff.mp described
  simp only [Allocation.mk.injEq, true_and] at facts
  obtain ⟨length, rfl⟩ := facts
  exact ⟨held, there, length⟩

end Heap

namespace SimulatedDevice

open ComputeHost.Action

variable {device after : SimulatedDevice} {module : KernelModule} {name : String}
  {places : List (String × Address)}

/-! ### Loading -/

/-- What loading a module has done: each of its variables has storage of its own, which holds its
initial contents and zeros after them, and nothing else has changed. -/
structure Installed (device : SimulatedDevice) (module : KernelModule)
    (places : List (String × Address)) (after : SimulatedDevice) : Prop where
  storage : List.Forall₂ (fun global place => place.1 = global.name ∧
    after.heap.content? place.2 = some ⟨.global, global.initial.getD [] ++
      Bytes.zeros (global.size - (global.initial.getD []).length)⟩ ∧
    after.globalAllocation? module.name global.name = some ⟨place.2, global.size, .global⟩)
    module.globals places
  distinct : (places.map Prod.snd).Nodup
  fresh : ∀ address ∈ places.map Prod.snd, device.heap.content? address = none
  others : ∀ address, address ∉ places.map Prod.snd →
    after.heap.content? address = device.heap.content? address
  modules : after.modules = device.modules ++ [⟨module, places⟩]
  used : after.heap.used = device.heap.used + (module.globals.map GlobalVariable.size).sum

/-- A module that was not there is found after it was added. -/
theorem loaded?_push {loaded : LoadedModule} (new : device.loaded? loaded.module.name = none)
    (modules : after.modules = device.modules ++ [loaded]) :
    after.loaded? loaded.module.name = some loaded := by
  unfold loaded? at new ⊢
  rw [modules, List.find?_append, new, Option.none_or]
  simp

/-- Loading that succeeds has stored the variables of the module and added it. -/
theorem loadModule_inv (ordered : device.heap.Ordered) (selected : device.selected = true)
    (new : device.loaded? module.name = none) (done : loadModule module device = .ok () after) :
    device.heap.Storing module.globals after.heap ∧
      after.modules =
        device.modules ++ [⟨module, Heap.placesFrom device.heap.next module.globals⟩] := by
  rcases loadModule_run selected ordered module new with
    ⟨cause, heap, failed, _⟩ | ⟨last, ran, storing, modules⟩
  · cases failed.symm.trans done
  · cases ran.symm.trans done
    exact ⟨storing, modules⟩

theorem installed_of_ok (ordered : device.heap.Ordered) (selected : device.selected = true)
    (names : (module.globals.map GlobalVariable.name).Nodup)
    (fit : ∀ global ∈ module.globals, Document.fitsInitial global = true)
    (new : device.loaded? module.name = none) (done : loadModule module device = .ok () after) :
    device.Installed module (Heap.placesFrom device.heap.next module.globals) after := by
  obtain ⟨storing, modules⟩ := loadModule_inv ordered selected new done
  have held := loaded?_push new modules
  have keys : ((Heap.placesFrom device.heap.next module.globals).map Prod.fst).Nodup := by
    rw [Heap.map_fst_placesFrom]
    exact names
  have places := Heap.map_snd_placesFrom device.heap.next module.globals
  refine ⟨?_, storing.distinct, fun address own => ?_,
    fun address absent => Option.ext fun content => ?_, modules, storing.used ordered⟩
  · refine (Heap.forall₂_placesFrom _ _).imp fun global place facts => ?_
    obtain ⟨listed, placed, named, stored⟩ := facts
    have live := (storing.content?_iff ordered).mpr (.inr stored)
    refine ⟨named, ?_, ?_⟩
    · rw [live, GlobalVariable.opening_of_fits (fit global listed)]
    · unfold globalAllocation?
      rw [held]
      simp only [Option.bind_eq_bind, Option.bind_some,
        (lookup_eq_some_iff_mem keys).mpr (named ▸ placed : (global.name, place.2) ∈ _),
        info?_of_content? live, GlobalVariable.length_opening]
  · rw [places] at own
    obtain ⟨entry, stored, rfl⟩ := List.mem_map.mp own
    exact ordered.content?_of_next_le (Heap.mem_storageFrom stored).1
  · rw [storing.content?_iff ordered]
    refine or_iff_left fun stored => absent ?_
    rw [places]
    exact List.mem_map_of_mem stored

/-! ### Whatever else is asked -/

/-- The device holds a module, with storage for all its variables. -/
structure Houses (device : SimulatedDevice) (loaded : LoadedModule) : Prop where
  ordered : device.heap.Ordered
  held : device.loaded? loaded.module.name = some loaded
  stored : device.heap.Stores loaded.module.globals loaded.globals

theorem houses_of_ok (ordered : device.heap.Ordered) (selected : device.selected = true)
    (new : device.loaded? module.name = none) (done : loadModule module device = .ok () after) :
    after.Houses ⟨module, Heap.placesFrom device.heap.next module.globals⟩ := by
  obtain ⟨storing, modules⟩ := loadModule_inv ordered selected new done
  exact ⟨storing.ordered, loaded?_push new modules, storing.stores ordered⟩

variable {loaded : LoadedModule}

theorem Houses.mem (keeps : device.Houses loaded) : loaded ∈ device.modules :=
  List.mem_of_find?_eq_some keeps.held

theorem Houses.lt_next (keeps : device.Houses loaded) {address : Address}
    (own : address ∈ loaded.globals.map Prod.snd) : address.value < device.heap.next := by
  obtain ⟨bytes, live⟩ := keeps.stored.live own
  exact keeps.ordered.lt_next live

/-- Blocks may come and go elsewhere. -/
theorem Houses.of_heap (keeps : device.Houses loaded) (ordered : after.heap.Ordered)
    (modules : after.modules = device.modules)
    (same : ∀ address ∈ loaded.globals.map Prod.snd,
      after.heap.info? address = device.heap.info? address) : after.Houses loaded := by
  refine ⟨ordered, ?_, keeps.stored.of_info? same⟩
  rw [loaded?, modules]
  exact keeps.held

theorem Houses.of_eq (keeps : device.Houses loaded) (heap : after.heap = device.heap)
    (modules : after.modules = device.modules) : after.Houses loaded :=
  keeps.of_heap (heap ▸ keeps.ordered) modules fun _ _ => by rw [heap]

/-- A device that held the module holds it still. -/
def Retains (loaded : LoadedModule) (device after : SimulatedDevice) : Prop :=
  device.Houses loaded → after.Houses loaded

theorem retains_compositional (loaded : LoadedModule) : Compositional (Retains loaded) where
  refl _ := id
  trans first second := second ∘ first
  refused _ _ keeps := keeps.of_eq rfl rfl

theorem retains_allocateAs (residency : Residency) (size : Nat) :
    Within (Retains loaded) (allocateAs residency size) :=
  (retains_compositional loaded).allocateAs fun _ _ _ done keeps =>
    keeps.of_heap (keeps.ordered.allocate done) rfl fun address own =>
      (Heap.grown_allocate done).kept address (keeps.lt_next own)

theorem retains_write (address : Address) (offset : Nat) (data : Block) :
    Within (Retains loaded) (write address offset data) :=
  (retains_compositional loaded).write fun _ _ done keeps =>
    keeps.of_heap (keeps.ordered.write done) rfl fun place own =>
      (keeps.ordered.grown_write done).kept place (keeps.lt_next own)

/-- Other blocks may be freed. -/
theorem retains_free {address : Address} (foreign : address ∉ loaded.globals.map Prod.snd) :
    Within (Retains loaded) (free address) :=
  (retains_compositional loaded).free fun _ _ done keeps =>
    keeps.of_heap (keeps.ordered.free done) rfl fun place own => by
      have other : place ≠ address := fun same => foreign (same ▸ own)
      rw [Heap.info?, Heap.info?, Heap.find?_free done, if_neg other]

/-- Other modules may be added. -/
theorem retains_loadModule (module : KernelModule) :
    Within (Retains loaded) (loadModule module) := by
  have keeps := retains_compositional loaded
  refine keeps.loadModule (keeps.placeGlobals (retains_allocateAs .global)
    (fun address data => retains_write address 0 data) _) fun device globals kept => ?_
  refine ⟨kept.ordered, ?_, kept.stored⟩
  have held := kept.held
  unfold loaded? at held ⊢
  rw [List.find?_append, held, Option.some_or]

/-- Other modules may be unloaded: their storage is elsewhere. -/
theorem retains_unloadModule (orderly : device.Orderly) {name : String}
    (other : name ≠ loaded.module.name) (kept : device.Houses loaded) :
    (final (unloadModule name device)).Houses loaded := by
  refine (retains_compositional loaded).unloadModule_at (fun foreign held address among => ?_)
    (fun device kept => ?_) (fun _ kept => kept.of_eq rfl rfl) kept
  · have named : foreign.module.name = name := by simpa using List.find?_some held
    refine retains_free (disjoint_of_apart orderly.apart (List.mem_of_find?_eq_some held) kept.mem
      (fun same => other ?_) address among)
    rw [← named, same]
  · refine ⟨kept.ordered, ?_, kept.stored⟩
    rw [← kept.held]
    unfold loaded?
    rw [List.find?_filter]
    refine congrArg (List.find? · device.modules) (funext fun entry => ?_)
    by_cases same : entry.module.name = loaded.module.name
    · simp [same, other.symm]
    · simp [same]

/-- The request leaves a module and its storage alone. -/
def Request.Spares (loaded : LoadedModule) : Request → Prop
  | .unloadModule name => name ≠ loaded.module.name
  | .free address => address ∉ loaded.globals.map Prod.snd
  | .release => False
  | _ => True

/-- **Whatever else is asked of a device**, a module keeps its storage. -/
theorem Houses.perform (kept : device.Houses loaded) (orderly : device.Orderly) {request : Request}
    (spares : request.Spares loaded) : (request.perform device).Houses loaded := by
  have keeps := retains_compositional loaded
  have noted : ∀ {device : SimulatedDevice} {change : Probe → Probe},
      Retains loaded device (device.note change) := fun kept => kept.of_eq rfl rfl
  cases request with
  | loadModule module => exact retains_loadModule module device kept
  | unloadModule name => exact retains_unloadModule orderly spares kept
  | allocate size => exact retains_allocateAs .deviceOnly size device kept
  | allocateHost size flags => exact retains_allocateAs (.hostVisible flags) size device kept
  | free address => exact retains_free spares device kept
  | write address offset data => exact retains_write address offset data device kept
  | read address offset length => exact keeps.read address offset length device kept
  | createStream => exact keeps.createStream (fun _ => noted) device kept
  | launch request =>
    exact keeps.launch (fun _ kept => kept.of_eq rfl rfl) (fun _ _ => noted) request device kept
  | release => exact spares.elim
  | select | unselect | setOptimization | hostView | allocations | globalAllocation | turn =>
    exact kept.of_eq rfl rfl

theorem Houses.foldl {requests : List Request} (kept : device.Houses loaded)
    (orderly : device.Orderly) (spares : ∀ request ∈ requests, request.Spares loaded) :
    (requests.foldl Request.perform device).Houses loaded ∧
      (requests.foldl Request.perform device).Orderly := by
  induction requests generalizing device with
  | nil => exact ⟨kept, orderly⟩
  | cons request rest ih =>
    obtain ⟨first, later⟩ := List.forall_mem_cons.mp spares
    exact ih (kept.perform orderly first) (orderly.perform request) later

/-! ### The capacity of a device -/

/-- The capacity stays, and what is in use stays within it. -/
def Confined (device after : SimulatedDevice) : Prop :=
  after.heap.capacity = device.heap.capacity ∧
    (device.heap.used ≤ device.heap.capacity → after.heap.used ≤ after.heap.capacity)

theorem confined_of_heap (same : after.heap = device.heap) : device.Confined after :=
  ⟨by rw [same], fun fits => by rwa [same]⟩

theorem confined_compositional : Compositional Confined where
  refl _ := confined_of_heap rfl
  trans first second := ⟨second.1.trans first.1, second.2 ∘ first.2⟩
  refused _ _ := confined_of_heap rfl

theorem confined_allocateAs (residency : Residency) (size : Nat) :
    Within Confined (allocateAs residency size) :=
  confined_compositional.allocateAs fun device _ _ done => by
    obtain ⟨room, _, rfl⟩ := Heap.allocate_inv done
    refine ⟨rfl, fun fits => ?_⟩
    simp only [Heap.available] at room ⊢
    omega

theorem confined_write (address : Address) (offset : Nat) (data : Block) :
    Within Confined (write address offset data) :=
  confined_compositional.write fun _ _ done => by
    obtain ⟨_, used, capacity, _⟩ := Heap.write_frame done
    exact ⟨capacity, fun fits => used.trans_le (fits.trans_eq capacity.symm)⟩

theorem confined_free (address : Address) : Within Confined (free address) :=
  confined_compositional.free fun _ _ done => by
    obtain ⟨size, _, _, used⟩ := Heap.extents_free done
    have capacity := Heap.capacity_free done
    refine ⟨capacity, fun fits => ?_⟩
    simp only [used, capacity]
    omega

theorem Request.confined (device : SimulatedDevice) (request : Request) :
    device.Confined (request.perform device) := by
  have keeps := confined_compositional
  cases request with
  | loadModule module =>
    exact keeps.loadModule (keeps.placeGlobals (confined_allocateAs .global)
      (fun address data => confined_write address 0 data) _)
      (fun _ _ => confined_of_heap rfl) device
  | unloadModule name =>
    exact keeps.unloadModule confined_free (fun _ => confined_of_heap rfl)
      (fun _ => confined_of_heap rfl) device
  | allocate size => exact confined_allocateAs .deviceOnly size device
  | allocateHost size flags => exact confined_allocateAs (.hostVisible flags) size device
  | free address => exact confined_free address device
  | write address offset data => exact confined_write address offset data device
  | read address offset length => exact keeps.read address offset length device
  | createStream => exact keeps.createStream (fun _ => confined_of_heap rfl) device
  | launch request =>
    exact keeps.launch (fun _ => confined_of_heap rfl) (fun _ _ => confined_of_heap rfl) request
      device
  | release => exact ⟨rfl, fun _ => Nat.zero_le _⟩
  | select | unselect | setOptimization | hostView | allocations | globalAllocation | turn =>
    exact confined_of_heap rfl

/-- No device has more in use than it has. -/
theorem Reached.used_le (reached : Reached device) : device.heap.used ≤ device.heap.capacity := by
  induction reached with
  | new number properties => exact Nat.zero_le _
  | @asked device _ request fits => exact (request.confined device).2 fits

/-! ### Unloading -/

/-- What unloading a module has done: the storage of its variables, which was there until now, is
gone, its bytes are free again, and nothing else has changed. -/
structure Removed (device : SimulatedDevice) (loaded : LoadedModule) (after : SimulatedDevice) :
    Prop where
  stored : device.heap.Stores loaded.module.globals loaded.globals
  content : ∀ address, after.heap.content? address =
    if address ∈ loaded.globals.map Prod.snd then none else device.heap.content? address
  modules : after.modules =
    device.modules.filter fun other => other.module.name ≠ loaded.module.name
  used : after.heap.used + (loaded.module.globals.map GlobalVariable.size).sum = device.heap.used
  available : after.heap.available =
    device.heap.available + (loaded.module.globals.map GlobalVariable.size).sum

/-- **Unloading a module that has kept its storage** succeeds and frees this storage only. -/
theorem Houses.unloadModule (kept : device.Houses loaded) (orderly : device.Orderly)
    (selected : device.selected = true) (fits : device.heap.used ≤ device.heap.capacity) :
    ∃ after, SimulatedDevice.unloadModule loaded.module.name device = .ok () after ∧
      device.Removed loaded after := by
  have distinct := (List.nodup_flatMap.mp orderly.apart).1 loaded kept.mem
  have selected' : { device with
      modules := device.modules.filter fun other =>
        other.module.name ≠ loaded.module.name }.selected = true := selected
  obtain ⟨heap, freed, ordered, view⟩ := freeAll_run selected' kept.ordered distinct
    fun address own =>
      let ⟨_, live⟩ := kept.stored.live own
      ⟨_, live⟩
  have capacity : heap.capacity = device.heap.capacity := by
    have freeing : Within Confined (freeAll (loaded.globals.map Prod.snd)) :=
      confined_compositional.freeAll fun address _ => confined_free address
    have confined := freeing { device with
      modules := device.modules.filter fun other => other.module.name ≠ loaded.module.name }
    rw [freed] at confined
    exact confined.1
  have used := kept.ordered.used_without ordered distinct view
  rw [List.map_map] at used
  have sizes : (loaded.globals.map (device.heap.sizeAt ∘ Prod.snd)).sum =
      (loaded.module.globals.map GlobalVariable.size).sum := congrArg List.sum kept.stored.sizes
  refine ⟨_, unloadModule_of_some selected kept.held freed, kept.stored, view, rfl, ?_, ?_⟩
  · rw [← sizes]
    exact used
  · rw [← sizes]
    show heap.capacity - heap.used = device.heap.capacity - device.heap.used + _
    omega

/-- **Unloading undoes loading.** A module that is loaded gets storage of its own for each of its
variables. Whatever is asked of the device then that leaves the module and this storage alone,
unloading it frees this storage, and nothing else. -/
theorem Reached.loads_and_unloads {source : String} (reached : Reached device)
    (selected : device.selected = true) (parsed : KernelModule.parse name source = .ok module)
    (new : device.loaded? name = none) (done : loadModule module device = .ok () after) :
    ∃ places, device.Installed module places after ∧
      ∀ requests : List Request, (∀ request ∈ requests, request.Spares ⟨module, places⟩) →
        (requests.foldl Request.perform after).selected = true →
        ∃ last, unloadModule name (requests.foldl Request.perform after) = .ok () last ∧
          (requests.foldl Request.perform after).Removed ⟨module, places⟩ last := by
  obtain ⟨names, fit⟩ := KernelModule.parse_globals parsed
  obtain rfl := KernelModule.parse_name parsed
  have loading : after = (Request.loadModule module).perform device :=
    (congrArg final done).symm
  have reached' : Reached after := loading ▸ reached.asked _
  refine ⟨_, installed_of_ok reached.ordered selected names fit new done,
    fun requests spares bound => ?_⟩
  obtain ⟨kept, orderly⟩ :=
    (houses_of_ok reached.ordered selected new done).foldl reached'.orderly spares
  exact kept.unloadModule orderly bound (reached'.foldl requests).used_le

/-- A module of two variables. -/
def bordered : KernelModule where
  name := "m"
  kernels := []
  globals := [⟨"low", 4, some [9, 8]⟩, ⟨"high", 2, none⟩]
  source := "\x7b\"globals\":[\x7b\"name\":\"low\",\"size\":4,\"init\":[9,8]\x7d," ++
    "\x7b\"name\":\"high\",\"size\":2\x7d]\x7d"

/-- A device with an allocation of eight bytes. -/
def occupied : SimulatedDevice :=
  [Request.select, .allocate 8].foldl Request.perform (.new 1 (.gpu "a" 64))

/-- The variable is overwritten, the old allocation makes way for another one, and another module
comes and goes. -/
def bustle : List Request :=
  [.write ⟨4294967552⟩ 1 (.ofBytes [7]), .free ⟨4294967296⟩, .unselect, .select, .allocate 3,
    .loadModule { bordered with name := "n" }, .unloadModule "n"]

theorem loads_and_unloads_bordered :
    ∃ after places last, loadModule bordered occupied = .ok () after ∧
      occupied.Installed bordered places after ∧
      unloadModule "m" (bustle.foldl Request.perform after) = .ok () last ∧
      (bustle.foldl Request.perform after).Removed ⟨bordered, places⟩ last := by
  have reached : occupied.Reached := .foldl (.new 1 (.gpu "a" 64)) _
  have parsed : KernelModule.parse "m" bordered.source = .ok bordered := by decide +kernel
  have absent : (occupied.loaded? "m").isNone = true := by decide +kernel
  have loads : (match loadModule bordered occupied with
    | .ok _ after => (bustle.foldl Request.perform after).selected
    | .error _ _ => false) = true := by decide +kernel
  have used : (occupied.heap.content? ⟨4294967296⟩).isSome = true := by decide +kernel
  split at loads
  · rename_i after done
    obtain ⟨places, installed, unloads⟩ := reached.loads_and_unloads (by decide +kernel) parsed
      (Option.isNone_iff_eq_none.mp absent) done
    -- what was there before is no storage of the module
    have foreign : (⟨4294967296⟩ : Address) ∉ places.map Prod.snd := fun own => by
      rw [installed.fresh _ own] at used
      cases used
    obtain ⟨last, ran, removed⟩ := unloads bustle
      (by simpa [bustle, Request.Spares, bordered] using foreign) loads
    exact ⟨after, places, last, done, installed, ran, removed⟩
  · cases loads

end SimulatedDevice

end ComputeHost
