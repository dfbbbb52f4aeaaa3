/-
**Modules on a device.**

A device in good order (`SimulatedDevice.Sound`) holds modules of different names, and for each
global variable of a module storage of its own.

* `Heap.Extended` — what becomes of a heap to which only storage of global variables is added.
* `Heap.Storing` — the same in full: for which variables storage was added, where, and what it
  holds.
* `selected_load` — loading adds the module or fails, and then storage that was made already stays
  (`SimulatedDevice.Refused`); the data of buffers is as before.
* `selected_unloadModule` — unloading never fails, and takes away the module and its storage only.
* `freeAll_perm` — in which order the storage is freed makes no difference.
* `Sound.globalAllocation?_eq` — every global variable of a loaded module has storage of its size.
-/

import ComputeHost.Proofs.Device.Selection
import ComputeHost.Proofs.Lookup
import Mathlib.Data.List.Flatten
import Mathlib.Data.List.Forall2
import Mathlib.Data.List.Nodup
import Mathlib.Data.List.Pairwise

namespace ComputeHost

/-- What the storage of a global variable holds first: its initial contents, if they fit, and zeros
after them. -/
def GlobalVariable.opening (global : GlobalVariable) : Bytes :=
  (Bytes.zeros global.size).splice 0
    (if Document.fitsInitial global then global.initial.getD [] else [])

@[simp] theorem GlobalVariable.length_opening (global : GlobalVariable) :
    global.opening.length = global.size := by
  unfold opening
  rw [Bytes.splice_length, Bytes.zeros_length]
  split
  · rename_i fits
    unfold Document.fitsInitial at fits
    cases given : global.initial with
    | none => simp
    | some data => simpa [given] using fits
  · simp

/-- Contents that are not given fit. -/
theorem GlobalVariable.fitsInitial_of_none {global : GlobalVariable}
    (missing : global.initial = none) : Document.fitsInitial global = true := by
  simp [Document.fitsInitial, missing]

/-- Contents that are not given leave zeros. -/
theorem GlobalVariable.opening_of_none {global : GlobalVariable}
    (missing : global.initial = none) : global.opening = Bytes.zeros global.size := by
  simp [opening, missing, Bytes.splice]

/-- Contents that do not fit leave zeros. -/
theorem GlobalVariable.opening_of_oversized {global : GlobalVariable}
    (oversized : ¬ Document.fitsInitial global = true) :
    global.opening = Bytes.zeros global.size := by
  unfold opening
  rw [if_neg oversized]
  simp [Bytes.splice]

namespace Heap

variable {heap middle after : Heap}

/-! ### Storage of global variables -/

/-- Nothing but storage of global variables was added. -/
structure Extended (heap after : Heap) : Prop where
  ordered : after.Ordered
  next_le : heap.next ≤ after.next
  kept : ∀ address : Address, address.value < heap.next →
    after.content? address = heap.content? address
  isGlobal : ∀ (address : Address) (content : Content), heap.next ≤ address.value →
    after.content? address = some content → content.residency = .global

/-- The storage of every global variable is still there, and as long as it was. -/
def KeepsGlobals (heap after : Heap) : Prop :=
  ∀ address bytes, heap.content? address = some ⟨.global, bytes⟩ →
    ∃ held, after.content? address = some ⟨.global, held⟩ ∧ held.length = bytes.length

/-- Each of the variables has storage of its size under its name. -/
def Stores (heap : Heap) (globals : List GlobalVariable) (places : List (String × Address)) :
    Prop :=
  List.Forall₂ (fun global place => place.1 = global.name ∧
    ∃ bytes, heap.content? place.2 = some ⟨.global, bytes⟩ ∧ bytes.length = global.size)
    globals places

theorem Extended.content?_of_some (extended : heap.Extended after) (ordered : heap.Ordered)
    {address : Address} {content : Content} (live : heap.content? address = some content) :
    after.content? address = some content := by
  rw [extended.kept address (ordered.lt_next live), live]

theorem Extended.keepsGlobals (extended : heap.Extended after) (ordered : heap.Ordered) :
    heap.KeepsGlobals after :=
  fun _ bytes live => ⟨bytes, extended.content?_of_some ordered live, rfl⟩

/-- Storage of global variables does not show among the data. -/
theorem Extended.data?_eq (extended : heap.Extended after) (ordered : heap.Ordered)
    (address : Address) : after.data? address = heap.data? address := by
  unfold data?
  by_cases below : address.value < heap.next
  · rw [extended.kept address below]
  · rw [ordered.content?_of_next_le (by omega)]
    cases live : after.content? address with
    | none => rfl
    | some content =>
      have kind := extended.isGlobal address content (by omega) live
      simp [Content.isData, kind]

theorem Stores.mono {globals : List GlobalVariable} {places : List (String × Address)}
    (stores : heap.Stores globals places)
    (keeps : ∀ address ∈ places.map Prod.snd, ∀ bytes,
      heap.content? address = some ⟨.global, bytes⟩ →
        ∃ held, after.content? address = some ⟨.global, held⟩ ∧ held.length = bytes.length) :
    after.Stores globals places := by
  induction stores with
  | nil => exact .nil
  | @cons global place globals places first rest ih =>
    rw [List.map_cons, List.forall_mem_cons] at keeps
    obtain ⟨name, bytes, live, size⟩ := first
    obtain ⟨held, stays, length⟩ := keeps.1 bytes live
    exact .cons ⟨name, held, stays, length.trans size⟩ (ih keeps.2)

/-- All that is stored is live. -/
theorem Stores.live {globals : List GlobalVariable} {places : List (String × Address)}
    (stores : heap.Stores globals places) {address : Address}
    (member : address ∈ places.map Prod.snd) :
    ∃ bytes, heap.content? address = some ⟨.global, bytes⟩ := by
  induction stores with
  | nil => cases member
  | cons first rest ih =>
    rw [List.map_cons, List.mem_cons] at member
    rcases member with rfl | later
    · obtain ⟨_, bytes, live, _⟩ := first
      exact ⟨bytes, live⟩
    · exact ih later

/-! ### Storage of new variables -/

/-- Initial contents are written to new storage exactly if they fit, and then the storage holds what
the variable holds first. -/
theorem write_initial {global : GlobalVariable} {data : Bytes} {address : Address}
    (live : heap.content? address = some ⟨.global, Bytes.zeros global.size⟩)
    (initial : global.initial = some data) :
    (Document.fitsInitial global = true ∧ ∃ filled,
      write address 0 (.ofBytes data) heap = .ok () filled ∧
      ∀ place, filled.content? place =
        if place = address then some ⟨.global, global.opening⟩ else heap.content? place) ∨
    (¬ Document.fitsInitial global = true ∧ ∃ cause,
      write address 0 (.ofBytes data) heap = .error cause heap) := by
  have fits_iff : Document.fitsInitial global = true ↔ data.length ≤ global.size := by
    rw [Document.fitsInitial, initial, Option.all_some, decide_eq_true_eq]
  cases wrote : write address 0 (.ofBytes data) heap with
  | ok _ filled =>
    left
    obtain ⟨content, before, within, written⟩ := content?_write wrote
    obtain rfl : content = ⟨.global, Bytes.zeros global.size⟩ :=
      Option.some.inj (before.symm.trans live)
    have fits : Document.fitsInitial global = true := fits_iff.mpr (by simpa using within)
    refine ⟨fits, filled, rfl, fun place => ?_⟩
    rw [written, GlobalVariable.opening, if_pos fits, initial]
    simp
  | error cause after =>
    right
    refine ⟨fun fits => ?_, cause, by rw [write_eq_error wrote]⟩
    obtain ⟨filled, done⟩ := write_ok live 0 (.ofBytes data) (by simpa using fits_iff.mp fits)
    rw [done] at wrote
    cases wrote

/-- Storage for variables one after the other, with what it holds first. -/
def storageFrom (base : Nat) : List GlobalVariable → List (Address × Content)
  | [] => []
  | global :: rest =>
    (⟨base⟩, ⟨.global, global.opening⟩) :: storageFrom (base + span global.size) rest

/-- The same storage by the names of the variables. -/
def placesFrom (base : Nat) : List GlobalVariable → List (String × Address)
  | [] => []
  | global :: rest => (global.name, ⟨base⟩) :: placesFrom (base + span global.size) rest

/-- Storage for these variables was added, each as it was made, and nothing else changed. -/
structure Storing (heap : Heap) (globals : List GlobalVariable) (after : Heap) : Prop where
  ordered : after.Ordered
  next : after.next = heap.next + spent (globals.map GlobalVariable.size)
  contents : after.contents = heap.contents ++ storageFrom heap.next globals
  available : after.available = heap.available - (globals.map GlobalVariable.size).sum

theorem storageFrom_extents (base : Nat) (globals : List GlobalVariable) :
    (storageFrom base globals).map (fun entry => (entry.1, entry.2.bytes.length)) =
      laid base (globals.map GlobalVariable.size) := by
  induction globals generalizing base with
  | nil => rfl
  | cons global rest ih =>
    rw [storageFrom, List.map_cons, List.map_cons, laid, ih]
    simp

theorem map_snd_placesFrom (base : Nat) (globals : List GlobalVariable) :
    (placesFrom base globals).map Prod.snd = (storageFrom base globals).map Prod.fst := by
  induction globals generalizing base with
  | nil => rfl
  | cons global rest ih => rw [placesFrom, storageFrom, List.map_cons, List.map_cons, ih]

/-- New storage lies where nothing was, and belongs to global variables. -/
theorem mem_storageFrom {base : Nat} {globals : List GlobalVariable} {address : Address}
    {content : Content} (member : (address, content) ∈ storageFrom base globals) :
    base ≤ address.value ∧ content.residency = .global := by
  induction globals generalizing base with
  | nil => cases member
  | cons global rest ih =>
    rcases List.mem_cons.mp member with here | later
    · cases here
      exact ⟨Nat.le_refl _, rfl⟩
    · obtain ⟨beyond, kind⟩ := ih later
      exact ⟨by omega, kind⟩

theorem Storing.nil (ordered : heap.Ordered) : heap.Storing [] heap :=
  ⟨ordered, rfl, (List.append_nil _).symm, rfl⟩

/-- After the storage of one variable there is room for that of the next. -/
theorem Storing.next_single {global : GlobalVariable} (storing : heap.Storing [global] after) :
    after.next = heap.next + span global.size := by
  rw [storing.next, List.map_singleton, spent, spent, Nat.add_zero]

theorem Storing.cons {global : GlobalVariable} {rest : List GlobalVariable}
    (first : heap.Storing [global] middle) (second : middle.Storing rest after) :
    heap.Storing (global :: rest) after := by
  have next := first.next_single
  refine ⟨second.ordered, ?_, ?_, ?_⟩
  · rw [second.next, next, List.map_cons, spent, Nat.add_assoc]
  · rw [second.contents, first.contents, List.append_assoc, next]
    rfl
  · rw [second.available, first.available, Nat.sub_sub]
    simp

/-- Storage for one variable was added. -/
theorem Storing.single {global : GlobalVariable} {fresh : Address} (ordered : heap.Ordered)
    (done : allocate global.size .global heap = .ok fresh middle) (ordered' : after.Ordered)
    (next : after.next = middle.next) (available : after.available = middle.available)
    (view : ∀ address, after.content? address =
      if address = fresh then some ⟨.global, global.opening⟩ else heap.content? address) :
    heap.Storing [global] after := by
  have room := available_allocate done
  have contents := ordered.contents_push ordered' (next_le_fresh done) view
  obtain ⟨_, rfl, rfl⟩ := allocate_inv done
  refine ⟨ordered', ?_, contents, ?_⟩
  · rw [next, List.map_singleton, spent, spent, Nat.add_zero]
  · rw [available, room, List.map_singleton, List.sum_singleton]

/-- As many more bytes are in use as the variables take. -/
theorem Storing.used {globals : List GlobalVariable} (storing : heap.Storing globals after)
    (ordered : heap.Ordered) :
    after.used = heap.used + (globals.map GlobalVariable.size).sum := by
  rw [storing.ordered.accounted, ordered.accounted, extents_eq, storing.contents, List.map_append,
    weight_append, storageFrom_extents, weight_laid, ← extents_eq]

theorem Storing.content?_iff {globals : List GlobalVariable} (storing : heap.Storing globals after)
    (ordered : heap.Ordered) {address : Address} {content : Content} :
    after.content? address = some content ↔
      heap.content? address = some content ∨
        (address, content) ∈ storageFrom heap.next globals := by
  rw [← storing.ordered.mem_contents, storing.contents, List.mem_append, ordered.mem_contents]

theorem Storing.extended {globals : List GlobalVariable} (storing : heap.Storing globals after)
    (ordered : heap.Ordered) : heap.Extended after := by
  refine ⟨storing.ordered, ?_, fun address below => ?_, fun address content beyond live => ?_⟩
  · rw [storing.next]
    exact Nat.le_add_right _ _
  · refine Option.ext fun content => (storing.content?_iff ordered).trans (or_iff_left ?_)
    exact fun new => absurd (mem_storageFrom new).1 (by omega)
  · rcases (storing.content?_iff ordered).mp live with old | new
    · exact absurd (ordered.lt_next old) (by omega)
    · exact (mem_storageFrom new).2

/-- Each variable has a place, where storage holds what the variable holds first. -/
theorem forall₂_placesFrom (base : Nat) (globals : List GlobalVariable) :
    List.Forall₂ (fun global place => global ∈ globals ∧ place ∈ placesFrom base globals ∧
        place.1 = global.name ∧ (place.2, ⟨.global, global.opening⟩) ∈ storageFrom base globals)
      globals (placesFrom base globals) := by
  induction globals generalizing base with
  | nil => exact .nil
  | cons global rest ih =>
    refine .cons ⟨List.mem_cons_self, List.mem_cons_self, rfl, List.mem_cons_self⟩
      ((ih _).imp fun _ _ ⟨listed, placed, named, stored⟩ => ?_)
    exact ⟨List.mem_cons_of_mem _ listed, List.mem_cons_of_mem _ placed, named,
      List.mem_cons_of_mem _ stored⟩

/-- The variables have their storage where it was added. -/
theorem Storing.stores {globals : List GlobalVariable} (storing : heap.Storing globals after)
    (ordered : heap.Ordered) : after.Stores globals (placesFrom heap.next globals) := by
  refine (forall₂_placesFrom _ _).imp fun global place ⟨_, _, named, stored⟩ => ?_
  exact ⟨named, global.opening, (storing.content?_iff ordered).mpr (.inr stored),
    global.length_opening⟩

theorem Storing.distinct {globals : List GlobalVariable} (storing : heap.Storing globals after) :
    ((placesFrom heap.next globals).map Prod.snd).Nodup := by
  have distinct := storing.ordered.nodup
  rw [← map_fst_contents, storing.contents, List.map_append] at distinct
  rw [map_snd_placesFrom]
  exact (List.nodup_append.mp distinct).2.1

end Heap

namespace SimulatedDevice

variable {device after : SimulatedDevice}

/-- The addresses of all global variables, in the order of loading. -/
def storage (device : SimulatedDevice) : List Address :=
  device.modules.flatMap fun loaded => loaded.globals.map Prod.snd

/-- A device in good order. -/
structure Sound (device : SimulatedDevice) : Prop where
  ordered : device.heap.Ordered
  /-- No two modules have one name. -/
  named : (device.modules.map fun loaded => loaded.module.name).Nodup
  /-- The global variables of every module are stored. -/
  stored : ∀ loaded ∈ device.modules, device.heap.Stores loaded.module.globals loaded.globals
  /-- No two global variables share their storage. -/
  apart : device.storage.Nodup

theorem sound_new (number : Nat) (properties : DeviceProperties) :
    (new number properties).Sound :=
  ⟨Heap.Ordered.start _ _, List.nodup_nil, List.forall_mem_nil _, List.nodup_nil⟩

/-- What changes the data only keeps a device in good order. -/
theorem Sound.of_heap (sound : device.Sound) (modules : after.modules = device.modules)
    (ordered : after.heap.Ordered) (keeps : device.heap.KeepsGlobals after.heap) :
    after.Sound := by
  refine ⟨ordered, ?_, fun loaded member => ?_, ?_⟩
  · rw [modules]
    exact sound.named
  · rw [modules] at member
    exact (sound.stored loaded member).mono fun address _ => keeps address
  · unfold storage
    rw [modules]
    exact sound.apart

theorem Sound.of_eq (sound : device.Sound) (modules : after.modules = device.modules)
    (heap : after.heap = device.heap) : after.Sound := by
  refine sound.of_heap modules ?_ ?_
  · rw [heap]
    exact sound.ordered
  · rw [heap]
    exact fun _ bytes live => ⟨bytes, live, rfl⟩

/-! ### Loading -/

/-- The variables, in order, that get storage within the room: the first that has none stops the
rest, and so does one that does not hold its initial contents. -/
def placeable (room : Nat) : List GlobalVariable → List GlobalVariable
  | [] => []
  | global :: rest =>
    if room < global.size then []
    else global :: if Document.fitsInitial global then placeable (room - global.size) rest else []

/-- The variables, in order, that get storage on the device. -/
def placed (device : SimulatedDevice) (globals : List GlobalVariable) : List GlobalVariable :=
  if device.switches.failAllocations then [] else placeable device.heap.available globals

/-- Without storage for the first variable none is placed. -/
theorem placed_of_refused {global : GlobalVariable} {cause : DeviceError} {heap : Heap}
    (refused : device.reserve .global global.size = .error cause heap)
    (rest : List GlobalVariable) :
    device.placed (global :: rest) = [] := by
  unfold reserve at refused
  unfold placed placeable
  split at refused
  · rename_i refuses
    rw [if_pos refuses]
  · rename_i allows
    rw [if_neg allows, if_pos (Heap.allocate_eq_error_iff.mp refused).1]

/-- With storage for the first variable it is placed, and the rest only if its contents fit. -/
theorem placed_of_reserved {global : GlobalVariable} {address : Address} {heap : Heap}
    (reserved : device.reserve .global global.size = .ok address heap)
    (rest : List GlobalVariable) :
    device.placed (global :: rest) =
      global :: if Document.fitsInitial global then
        ({ device with heap } : SimulatedDevice).placed rest else [] := by
  have done := reserve_ok reserved
  obtain ⟨room, _⟩ := Heap.allocate_inv done
  unfold reserve at reserved
  split at reserved
  · cases reserved
  · rename_i allows
    unfold placed
    rw [if_neg allows, if_neg allows, placeable, if_neg (by omega), Heap.available_allocate done]

/-- What a device places depends on its heap by the room in it only. -/
theorem placed_congr {heap other : Heap} (room : heap.available = other.available)
    (globals : List GlobalVariable) :
    ({ device with heap } : SimulatedDevice).placed globals =
      ({ device with heap := other } : SimulatedDevice).placed globals := by
  unfold placed
  rw [room]

/-- The storage of one global variable, and what becomes of the rest. Where its initial contents
fit, it fails for want of memory only. -/
theorem placeGlobals_cons (selected : device.selected = true) (ordered : device.heap.Ordered)
    (global : GlobalVariable) (rest : List GlobalVariable) :
    (∃ cause heap, placeGlobals (global :: rest) device = .error cause { device with heap } ∧
      device.heap.Storing (device.placed (global :: rest)) heap ∧
      (Document.fitsInitial global = true →
        ∃ requested available, cause = .outOfMemory requested available)) ∨
    ∃ heap, device.heap.Storing [global] heap ∧
      device.placed (global :: rest) = global :: { device with heap }.placed rest ∧
      placeGlobals (global :: rest) device =
        (do return (global.name, ⟨device.heap.next⟩) :: (← placeGlobals rest) :
          DeviceAction SimulatedDevice (List (String × Address))) { device with heap } := by
  have reserving := allocateAs_of_selected selected .global global.size
  rw [placeGlobals]
  cases reserved : device.reserve .global global.size with
  | error cause heap =>
    left
    obtain ⟨rfl, short⟩ := reserve_eq_error reserved
    rw [reserved] at reserving
    rw [placed_of_refused reserved]
    exact ⟨cause, device.heap, Action.bind_of_error reserving, .nil ordered, fun _ => short⟩
  | ok address heap =>
    have done := reserve_ok reserved
    obtain ⟨_, here, _⟩ := Heap.allocate_inv done
    have order := ordered.allocate done
    have view := ordered.content?_allocate done
    have still : { device with heap }.selected = true := selected
    rw [reserved] at reserving
    rw [Action.bind_of_ok reserving, placed_of_reserved reserved]
    -- the initial contents are written if there are any and they fit
    cases initial : global.initial with
    | none =>
      right
      rw [if_pos (GlobalVariable.fitsInitial_of_none initial)]
      refine ⟨heap, .single ordered done order rfl rfl fun place => ?_, rfl, ?_⟩
      · rw [view, GlobalVariable.opening_of_none initial]
      · rw [← here]
    | some data =>
      have writing := write_of_selected still address 0 (.ofBytes data)
      have live : heap.content? address = some ⟨.global, Bytes.zeros global.size⟩ := by
        rw [view, if_pos rfl]
      rcases Heap.write_initial live initial with
        ⟨fits, filled, wrote, written⟩ | ⟨oversized, cause, refused⟩
      · right
        rw [if_pos fits]
        rw [show Heap.write address 0 (.ofBytes data) heap = _ from wrote] at writing
        obtain ⟨next, used, capacity, _⟩ := Heap.write_frame wrote
        have room : filled.available = heap.available := by
          unfold Heap.available
          rw [used, capacity]
        refine ⟨filled, .single ordered done (order.write wrote) next room fun place => ?_,
          congrArg _ (placed_congr room.symm rest), ?_⟩
        · rw [written]
          split
          · rfl
          · rename_i other
            rw [view, if_neg other]
        · rw [← here]
          exact Action.bind_of_ok writing
      · left
        rw [if_neg oversized]
        rw [show Heap.write address 0 (.ofBytes data) heap = _ from refused] at writing
        refine ⟨cause, heap, Action.bind_of_error writing,
          .single ordered done order rfl rfl fun place => ?_, fun fits => absurd fits oversized⟩
        rw [view, GlobalVariable.opening_of_oversized oversized]

/-- Making storage for global variables makes it for as many as can be placed; it succeeds if these
are all. -/
theorem placeGlobals_run (selected : device.selected = true) (ordered : device.heap.Ordered)
    (globals : List GlobalVariable) :
    (∃ cause heap, placeGlobals globals device = .error cause { device with heap } ∧
      device.heap.Storing (device.placed globals) heap ∧
      ((∀ global ∈ globals, Document.fitsInitial global = true) →
        ∃ requested available, cause = .outOfMemory requested available)) ∨
    ∃ heap, placeGlobals globals device =
        .ok (Heap.placesFrom device.heap.next globals) { device with heap } ∧
      device.heap.Storing globals heap := by
  induction globals generalizing device with
  | nil => exact .inr ⟨device.heap, rfl, .nil ordered⟩
  | cons global rest ih =>
    rcases placeGlobals_cons selected ordered global rest with failed | opened
    · obtain ⟨cause, heap, failed, storing, short⟩ := failed
      exact .inl ⟨cause, heap, failed, storing, fun fits => short (fits global List.mem_cons_self)⟩
    obtain ⟨heap, first, kept, run⟩ := opened
    have next := first.next_single
    rw [run]
    have still : { device with heap }.selected = true := selected
    rcases ih still first.ordered with failed | later
    · left
      obtain ⟨cause, final, failed, more, short⟩ := failed
      refine ⟨cause, final, Action.bind_of_error failed, ?_,
        fun fits => short fun other member => fits other (List.mem_cons_of_mem _ member)⟩
      rw [kept]
      exact first.cons more
    · right
      obtain ⟨final, ran, more⟩ := later
      refine ⟨final, ?_, first.cons more⟩
      rw [Heap.placesFrom, ← next]
      exact Action.bind_of_ok ran

/-- Loading a new module between selecting and unselecting. -/
def load (module : KernelModule) (level : OptimizationLevel) :
    DeviceAction SimulatedDevice Unit := do
  DeviceDriver.loadModule module
  modify (DeviceDriver.setOptimization level)

/-- The device has one module more. -/
structure Loaded (device : SimulatedDevice) (module : KernelModule) (after : SimulatedDevice) :
    Prop where
  sound : after.Sound
  heap : device.heap.Storing module.globals after.heap
  modules : after.modules =
    device.modules ++ [⟨module, Heap.placesFrom device.heap.next module.globals⟩]

/-- The device has the same modules, and keeps the storage that it made before it refused one. -/
structure Refused (device : SimulatedDevice) (module : KernelModule) (after : SimulatedDevice) :
    Prop where
  heap : device.heap.Storing (device.placed module.globals) after.heap
  modules : after.modules = device.modules

/-- The storage of a new module is apart from the storage that there was. -/
theorem Sound.push (sound : device.Sound) {module : KernelModule}
    (new : device.loaded? module.name = none)
    (storing : device.heap.Storing module.globals after.heap)
    (modules : after.modules =
      device.modules ++ [⟨module, Heap.placesFrom device.heap.next module.globals⟩]) :
    after.Sound := by
  have extended := storing.extended sound.ordered
  refine ⟨extended.ordered, ?_, ?_, ?_⟩
  · rw [modules, List.map_append, List.nodup_append]
    refine ⟨sound.named, List.nodup_singleton _, fun name member other last => ?_⟩
    obtain ⟨loaded, held, rfl⟩ := List.mem_map.mp member
    obtain rfl := List.mem_singleton.mp last
    simpa using List.find?_eq_none.mp new loaded held
  · rw [modules]
    intro loaded member
    rcases List.mem_append.mp member with old | last
    · exact (sound.stored loaded old).mono fun address _ =>
        extended.keepsGlobals sound.ordered address
    · obtain rfl := List.mem_singleton.mp last
      exact storing.stores sound.ordered
  · unfold storage
    rw [modules, List.flatMap_append, List.flatMap_singleton, List.nodup_append]
    refine ⟨sound.apart, storing.distinct, fun address member other last => ?_⟩
    rintro rfl
    -- storage that there was lies below the next address, new storage does not
    obtain ⟨loaded, held, among⟩ := List.mem_flatMap.mp member
    obtain ⟨bytes, live⟩ := (sound.stored loaded held).live among
    rw [Heap.map_snd_placesFrom] at last
    obtain ⟨entry, new, rfl⟩ := List.mem_map.mp last
    exact absurd (sound.ordered.lt_next live) (Nat.not_lt.mpr (Heap.mem_storageFrom new).1)

theorem loadModule_of_new (selected : device.selected = true) {module : KernelModule}
    (new : device.loaded? module.name = none) :
    loadModule module device =
      (do
        let globals ← placeGlobals module.globals
        modify fun device =>
          { device with
            modules := device.modules ++ [⟨module, globals⟩]
            probe := { device.probe with loads := device.probe.loads ++ [module.name] } } :
        DeviceAction SimulatedDevice Unit) device := by
  have got : (get : DeviceAction SimulatedDevice SimulatedDevice) device = .ok device device := rfl
  have unknown : (device.loaded? module.name).isNone = true := by rw [new]; rfl
  unfold loadModule
  rw [Action.bind_of_ok (ensureSelected_of_selected selected), Action.bind_of_ok got,
    if_pos unknown]

/-- Loading a new module adds it with its storage, or fails; then the storage that was made already
stays. A module whose first contents fit fails for want of memory only. -/
theorem loadModule_run (selected : device.selected = true) (ordered : device.heap.Ordered)
    (module : KernelModule) (new : device.loaded? module.name = none) :
    (∃ cause heap, loadModule module device = .error cause { device with heap } ∧
      device.heap.Storing (device.placed module.globals) heap ∧
      ((∀ global ∈ module.globals, Document.fitsInitial global = true) →
        ∃ requested available, cause = .outOfMemory requested available)) ∨
    ∃ after, loadModule module device = .ok () after ∧
      device.heap.Storing module.globals after.heap ∧
      after.modules =
        device.modules ++ [⟨module, Heap.placesFrom device.heap.next module.globals⟩] := by
  rw [loadModule_of_new selected new]
  rcases placeGlobals_run selected ordered module.globals with
    ⟨cause, heap, failed, storing, short⟩ | ⟨heap, placed, storing⟩
  · exact .inl ⟨cause, heap, Action.bind_of_error failed, storing, short⟩
  · rw [Action.bind_of_ok placed]
    exact .inr ⟨_, rfl, storing, rfl⟩

/-- **Loading a new module between selecting and unselecting** either adds it, or is refused. A
module whose first contents fit is refused for want of memory only. -/
theorem selected_load (sound : device.Sound) (module : KernelModule) (level : OptimizationLevel)
    (new : device.loaded? module.name = none) :
    (∃ cause after, DeviceDriver.selected (load module level) device = .error cause after ∧
      device.Refused module after ∧
      ((∀ global ∈ module.globals, Document.fitsInitial global = true) →
        ∃ requested available, cause = .outOfMemory requested available)) ∨
    ∃ after, DeviceDriver.selected (load module level) device = .ok () after ∧
      device.Loaded module after := by
  rcases loadModule_run device.selected_select sound.ordered module new with
    ⟨cause, heap, failed, storing, short⟩ | ⟨middle, opened, storing, modules⟩
  · left
    exact ⟨cause, { device.visited with heap },
      DeviceDriver.selected_of_error (Action.bind_of_error failed), ⟨storing, rfl⟩, short⟩
  · right
    have done : ∃ after, DeviceDriver.selected (load module level) device = .ok () after ∧
        after.heap = middle.heap ∧ after.modules = middle.modules :=
      ⟨_, DeviceDriver.selected_of_ok (Action.bind_of_ok opened), rfl, rfl⟩
    obtain ⟨after, done, heap, same⟩ := done
    rw [← heap] at storing
    rw [← same] at modules
    exact ⟨after, done, sound.push new storing modules, storing, modules⟩

/-! ### Unloading -/

theorem freeAll_cons (selected : device.selected = true) {first : Address} {heap : Heap}
    (freed : Heap.free first device.heap = .ok () heap) (rest : List Address) :
    freeAll (first :: rest) device = freeAll rest { device with heap } := by
  have run := free_of_selected selected first
  rw [freed] at run
  exact Action.bind_of_ok run

/-- Freeing different live addresses succeeds and takes away these only. -/
theorem freeAll_run (selected : device.selected = true) (ordered : device.heap.Ordered)
    {addresses : List Address} (distinct : addresses.Nodup)
    (live : ∀ address ∈ addresses, ∃ content, device.heap.content? address = some content) :
    ∃ heap, freeAll addresses device = .ok () { device with heap } ∧ heap.Ordered ∧
      ∀ address, heap.content? address =
        if address ∈ addresses then none else device.heap.content? address := by
  induction addresses generalizing device with
  | nil => exact ⟨device.heap, rfl, ordered, fun address => by simp⟩
  | cons first rest ih =>
    obtain ⟨held, found⟩ := live first (List.mem_cons_self ..)
    obtain ⟨heap, freed⟩ := Heap.free_ok found
    have view := Heap.content?_free freed
    obtain ⟨absent, distinct⟩ := List.nodup_cons.mp distinct
    have still : ∀ address ∈ rest, ∃ content, heap.content? address = some content := by
      intro address member
      have other : address ≠ first := fun same => absent (same ▸ member)
      obtain ⟨content, holds⟩ := live address (List.mem_cons_of_mem _ member)
      exact ⟨content, by rw [view, if_neg other, holds]⟩
    have selected' : { device with heap }.selected = true := selected
    obtain ⟨final, ran, ordered, after⟩ := ih selected' (ordered.free freed) distinct still
    refine ⟨final, (freeAll_cons selected freed rest).trans ran, ordered, fun address => ?_⟩
    rw [after address, view address]
    by_cases here : address = first
    · simp [here]
    · simp [here]

/-- **Different live addresses may be freed in any order.** -/
theorem freeAll_perm {addresses others : List Address} (perm : addresses.Perm others)
    (selected : device.selected = true) (distinct : addresses.Nodup)
    (live : ∀ address ∈ addresses, ∃ content, device.heap.content? address = some content) :
    freeAll addresses device = freeAll others device := by
  induction perm generalizing device with
  | nil => rfl
  | cons first _ ih =>
    obtain ⟨absent, distinct⟩ := List.nodup_cons.mp distinct
    obtain ⟨⟨_, found⟩, live⟩ := List.forall_mem_cons.mp live
    obtain ⟨heap, freed⟩ := Heap.free_ok found
    rw [freeAll_cons selected freed, freeAll_cons selected freed]
    refine ih selected distinct fun address member => ?_
    obtain ⟨content, holds⟩ := live address member
    have other : address ≠ first := fun same => absent (same ▸ member)
    exact ⟨content, by rw [Heap.content?_free freed, if_neg other, holds]⟩
  | swap first second rest =>
    have apart : second ≠ first := by
      rintro rfl
      simp at distinct
    obtain ⟨_, found⟩ := live second List.mem_cons_self
    obtain ⟨content, holds⟩ := live first (List.mem_cons_of_mem _ List.mem_cons_self)
    obtain ⟨one, freed⟩ := Heap.free_ok found
    have still : one.content? first = some content := by
      rw [Heap.content?_free freed, if_neg apart.symm, holds]
    obtain ⟨both, next⟩ := Heap.free_ok still
    obtain ⟨other, freed', next'⟩ := Heap.free_comm apart freed next
    have opened : { device with heap := one }.selected = true := selected
    have opened' : { device with heap := other }.selected = true := selected
    rw [freeAll_cons selected freed, freeAll_cons selected freed', freeAll_cons opened next,
      freeAll_cons opened' next']
  | trans perm _ ih ih' =>
    refine (ih selected distinct live).trans (ih' selected (perm.nodup_iff.mp distinct) ?_)
    exact fun address member => live address (perm.mem_iff.mpr member)

/-- The storage of the module of a name, if it is loaded. -/
def storageOf (device : SimulatedDevice) (name : String) : List Address :=
  ((device.loaded? name).map fun loaded => loaded.globals.map Prod.snd).getD []

/-- The device has one module less. -/
structure Unloaded (device : SimulatedDevice) (name : String) (after : SimulatedDevice) :
    Prop where
  sound : after.Sound
  modules : after.modules = device.modules.filter fun loaded => loaded.module.name ≠ name
  content : ∀ address, after.heap.content? address =
    if address ∈ device.storageOf name then none else device.heap.content? address
  data : ∀ address, after.heap.data? address = device.heap.data? address

theorem unloadModule_of_none (selected : device.selected = true) {name : String}
    (absent : device.loaded? name = none) :
    unloadModule name device =
      .ok () (device.note fun probe => { probe with unloads := probe.unloads ++ [name] }) := by
  have got : (get : DeviceAction SimulatedDevice SimulatedDevice) device = .ok device device := rfl
  unfold unloadModule
  rw [Action.bind_of_ok (ensureSelected_of_selected selected), Action.bind_of_ok got, absent]
  rfl

theorem unloadModule_of_some (selected : device.selected = true) {name : String}
    {loaded : LoadedModule} {heap : Heap} (held : device.loaded? name = some loaded)
    (freed : freeAll (loaded.globals.map Prod.snd)
        { device with
          modules := device.modules.filter fun other => other.module.name ≠ name } =
      .ok ()
        { device with
          modules := device.modules.filter fun other => other.module.name ≠ name
          heap }) :
    unloadModule name device =
      .ok ()
        { device with
          modules := device.modules.filter fun other => other.module.name ≠ name
          heap
          probe := { device.probe with unloads := device.probe.unloads ++ [name] } } := by
  have got : (get : DeviceAction SimulatedDevice SimulatedDevice) device = .ok device device := rfl
  unfold unloadModule
  rw [Action.bind_of_ok (ensureSelected_of_selected selected), Action.bind_of_ok got, held]
  have stripped : (modify fun device : SimulatedDevice => { device with
      modules := device.modules.filter fun other => other.module.name ≠ name } :
        DeviceAction SimulatedDevice PUnit) device =
      .ok () { device with
        modules := device.modules.filter fun other => other.module.name ≠ name } := rfl
  exact (Action.bind_of_ok stripped).trans ((Action.bind_of_ok freed).trans rfl)

/-- The storage of two different modules of a device is apart. -/
theorem disjoint_of_apart (apart : device.storage.Nodup) {one other : LoadedModule}
    (member : one ∈ device.modules) (among : other ∈ device.modules) (differ : one ≠ other) :
    ∀ address ∈ one.globals.map Prod.snd, address ∉ other.globals.map Prod.snd := by
  have apart := (List.nodup_flatMap.mp apart).2
  have symmetric : Std.Symm (Function.onFun List.Disjoint fun loaded : LoadedModule =>
      loaded.globals.map Prod.snd) := ⟨fun _ _ disjoint _ here there => disjoint there here⟩
  have disjoint := apart.forall member among differ
  exact fun address here there => disjoint here there

/-- Unloading never fails. It takes away the module of the name, if there is one, and its
storage. -/
theorem selected_unloadModule (sound : device.Sound) (name : String) :
    ∃ after, DeviceDriver.selected (DeviceDriver.unloadModule name) device = .ok () after ∧
      device.Unloaded name after := by
  cases held : device.loaded? name with
  | none =>
    have run := DeviceDriver.selected_of_ok (unloadModule_of_none device.selected_select held)
    refine ⟨_, run, sound.of_eq rfl rfl, ?_, fun address => ?_, fun _ => rfl⟩
    swap
    · simp only [storageOf, held, Option.map_none, Option.getD_none, List.not_mem_nil, if_false]
      rfl
    refine (List.filter_eq_self.mpr fun loaded member => ?_).symm
    simpa using List.find?_eq_none.mp held loaded member
  | some loaded =>
    have member : loaded ∈ device.modules := List.mem_of_find?_eq_some held
    have named : loaded.module.name = name := by simpa using List.find?_some held
    have distinct := (List.nodup_flatMap.mp sound.apart).1 loaded member
    have held_there : ∀ address ∈ loaded.globals.map Prod.snd,
        ∃ bytes, device.heap.content? address = some ⟨.global, bytes⟩ :=
      fun address among => (sound.stored loaded member).live among
    have selected : { device.select with
        modules := device.modules.filter fun other => other.module.name ≠ name }.selected =
      true := rfl
    obtain ⟨heap, freed, ordered, view⟩ := freeAll_run selected sound.ordered distinct
      fun address among =>
        let ⟨_, live⟩ := held_there address among
        ⟨_, live⟩
    have done : ∃ after,
        DeviceDriver.selected (DeviceDriver.unloadModule name) device = .ok () after ∧
          after.heap = heap ∧
          after.modules = device.modules.filter fun other => other.module.name ≠ name :=
      ⟨_, DeviceDriver.selected_of_ok
        (unloadModule_of_some device.selected_select held freed), rfl, rfl⟩
    obtain ⟨after, run, rfl, modules⟩ := done
    have freed_there : device.storageOf name = loaded.globals.map Prod.snd := by
      simp only [storageOf, held, Option.map_some, Option.getD_some]
    refine ⟨after, run, ⟨ordered, ?_, fun other among => ?_, ?_⟩, modules, fun address => ?_,
      fun address => ?_⟩
    · rw [modules]
      exact sound.named.sublist (List.filter_sublist.map _)
    · -- the storage of other modules was not freed
      rw [modules] at among
      obtain ⟨among, differ⟩ := List.mem_filter.mp among
      have differ : other.module.name ≠ loaded.module.name := by simpa [named] using differ
      refine (sound.stored other among).mono fun address here bytes live => ⟨bytes, ?_, rfl⟩
      have other_there := disjoint_of_apart sound.apart among member
        (fun same => differ (congrArg (fun loaded => loaded.module.name) same)) address here
      rw [view, if_neg other_there]
      exact live
    · unfold storage
      rw [modules]
      exact sound.apart.sublist (List.filter_sublist.flatMap _)
    · rw [freed_there]
      exact view address
    · unfold Heap.data?
      rw [view]
      by_cases gone : address ∈ loaded.globals.map Prod.snd
      · obtain ⟨bytes, live⟩ := held_there address gone
        rw [if_pos gone, live]
        rfl
      · rw [if_neg gone]
        rfl

/-! ### The storage of a global variable -/

/-- What is live at an address, as the device describes it. -/
theorem info?_of_content? {address : Address} {content : Content}
    (live : device.heap.content? address = some content) :
    device.heap.info? address = some ⟨address, content.bytes.length, content.residency⟩ := by
  rw [Heap.info?_eq, live]
  rfl

/-- The place of a variable, where variables differ by name. -/
theorem lookup_of_stores {globals : List GlobalVariable} {places : List (String × Address)}
    (stores : device.heap.Stores globals places)
    (distinct : (globals.map GlobalVariable.name).Nodup) {global : GlobalVariable}
    (member : global ∈ globals) :
    ∃ address bytes, places.lookup global.name = some address ∧
      device.heap.content? address = some ⟨.global, bytes⟩ ∧ bytes.length = global.size := by
  induction stores with
  | nil => cases member
  | @cons first place globals places here rest ih =>
    obtain ⟨name, address⟩ := place
    obtain ⟨rfl, bytes, live, size⟩ := here
    rw [List.map_cons, List.nodup_cons] at distinct
    rw [List.lookup_cons]
    rcases List.mem_cons.mp member with rfl | later
    · exact ⟨address, bytes, by simp, live, size⟩
    · have other : (global.name == first.name) = false := by
        refine beq_eq_false_iff_ne.mpr fun same => distinct.1 ?_
        exact List.mem_map.mpr ⟨global, later, same⟩
      simp only [other]
      exact ih distinct.2 later

/-- Each global variable of a loaded module has live storage of its size. -/
theorem Sound.globalAllocation?_eq (sound : device.Sound) {name : String} {loaded : LoadedModule}
    (held : device.loaded? name = some loaded)
    (distinct : (loaded.module.globals.map GlobalVariable.name).Nodup) {global : GlobalVariable}
    (member : global ∈ loaded.module.globals) :
    ∃ address, device.globalAllocation? name global.name =
      some ⟨address, global.size, .global⟩ := by
  have stores := sound.stored loaded (List.mem_of_find?_eq_some held)
  obtain ⟨address, bytes, placed, live, size⟩ := lookup_of_stores stores distinct member
  refine ⟨address, ?_⟩
  unfold globalAllocation?
  simp only [held, placed, Option.bind_eq_bind, Option.bind_some]
  rw [info?_of_content? live, size]

end SimulatedDevice

end ComputeHost
