/-
**What a migration has done when it succeeds.**

Two devices in use (`SimulatedDevice.InUse`) hold some modules, and where both hold a module of one
name, with one text. `Migrated` says in full what both hold after all memory of the one has moved to
the other.

* `migrate_relocates` — a migration that succeeds has done that.
* `storagePairs_paired` — devices that hold modules with one text agree on the sizes of their global
  variables, so that all of each is copied.
* `Moved.carried_source`, `Moved.carried_target` — as many bytes leave the one as arrive on the
  other.
-/

import ComputeHost.Proofs.Device.Relocation
import ComputeHost.Module.Document

namespace ComputeHost

namespace SimulatedDevice

/-! ### Devices that hold modules as they were read -/

/-- A module to load was read from its text. -/
def Request.IsRead : Request → Prop
  | .loadModule module => KernelModule.parse module.name module.source = .ok module
  | _ => True

/-- A device that was made, and then asked for one thing after the other, where every module to load
was read from its text. -/
inductive InUse : SimulatedDevice → Prop
  | new (number : Nat) (properties : DeviceProperties) : InUse (new number properties)
  | asked {device : SimulatedDevice} (inUse : InUse device) (request : Request)
      (read : request.IsRead) : InUse (request.perform device)

/-- If the device holds a module of this name, it holds it with this text. -/
def HoldsAs (device : SimulatedDevice) (module : KernelModule) : Prop :=
  ∀ loaded, device.loaded? module.name = some loaded → loaded.module.source = module.source

variable {device : SimulatedDevice}

theorem InUse.reached (inUse : InUse device) : Reached device := by
  induction inUse with
  | new number properties => exact .new number properties
  | asked _ request _ reached => exact .asked reached request

/-- One request after the other. -/
theorem InUse.foldl (inUse : InUse device) {requests : List Request}
    (read : ∀ request ∈ requests, request.IsRead) :
    InUse (requests.foldl Request.perform device) := by
  induction requests generalizing device with
  | nil => exact inUse
  | cons request rest ih =>
    obtain ⟨first, later⟩ := List.forall_mem_cons.mp read
    exact ih (inUse.asked request first) later

/-- All modules that a device holds were read from their texts. -/
theorem InUse.read (inUse : InUse device) : ∀ loaded ∈ device.modules,
    KernelModule.parse loaded.module.name loaded.module.source = .ok loaded.module := by
  induction inUse with
  | new number properties => exact List.forall_mem_nil _
  | @asked device inUse request read held =>
    rcases request.strips_or_loads device with strips | ⟨module, rfl⟩
    · exact fun loaded member => held loaded (strips.subset member)
    · rcases loadModule_adds inUse.reached.ordered module with same | ⟨_, added⟩
      · intro loaded member
        exact held loaded (same ▸ member)
      · intro loaded member
        rcases List.mem_append.mp (added ▸ member) with old | new
        · exact held loaded old
        · obtain rfl := List.mem_singleton.mp new
          exact read

/-- Devices that hold a module with one text hold the same module. -/
theorem InUse.same_module {other : SimulatedDevice} (here : InUse device) (there : InUse other)
    {module : KernelModule} {one two : LoadedModule} (left : device.HoldsAs module)
    (right : other.HoldsAs module) (held : device.loaded? module.name = some one)
    (held' : other.loaded? module.name = some two) : one.module = two.module := by
  have named : one.module.name = module.name := by simpa using List.find?_some held
  have named' : two.module.name = module.name := by simpa using List.find?_some held'
  have first := here.read one (List.mem_of_find?_eq_some held)
  have second := there.read two (List.mem_of_find?_eq_some held')
  rw [named, left one held] at first
  rw [named', right two held', first] at second
  exact Except.ok.inj second

end SimulatedDevice

namespace Migration

variable {pair middle after : DevicePair SimulatedDevice} {moved : AddressMap}
  {modules : List KernelModule} {storage : List (Allocation × Allocation)}

/-! ### Storage in pairs -/

/-- Where both devices hold a module with one text, its variables have one size on both, and all of
them their own storage. -/
theorem storagePairs_paired (source : pair.source.InUse) (target : pair.target.InUse)
    (same : ∀ module ∈ modules, pair.source.HoldsAs module ∧ pair.target.HoldsAs module)
    (found : storagePairs pair modules = .ok storage) : Paired storage := by
  have orderly := source.reached.orderly
  have orderly' := target.reached.orderly
  obtain ⟨given, _⟩ := storagePairs_eq_ok found
  refine ⟨fun entry member => ?_, fun one member other among agree => ?_⟩
  · obtain ⟨module, listed, global, _, paired⟩ := given entry member
    obtain ⟨here, there⟩ := storagePair_eq_ok_iff.mp paired
    obtain ⟨loaded, first, _, held, named, _, _, _, size⟩ := orderly.globalAllocation?_inv here
    obtain ⟨loaded', second, _, held', named', _, _, _, size'⟩ :=
      orderly'.globalAllocation?_inv there
    have agree := source.same_module target (same module listed).1 (same module listed).2 held held'
    rw [agree, named'] at named
    obtain rfl := Option.some.inj named
    exact size.trans size'.symm
  · rw [storagePairs_matched orderly' found one member other among agree]

/-! ### How much moved -/

/-- How many bytes the allocations that moved take. -/
def carried (pair : DevicePair SimulatedDevice) (moved : AddressMap) : Nat :=
  (moved.map fun entry => pair.source.heap.sizeAt entry.1).sum

theorem Moved.carried_source (run : Moved pair moved after) (ordered : pair.source.heap.Ordered)
    (once : (moved.map Prod.fst).Nodup) :
    after.source.heap.used + carried pair moved = pair.source.heap.used := by
  have sum := ordered.used_without run.sourceOrdered once run.left
  rw [List.map_map] at sum
  exact sum

theorem Moved.carried_target (run : Moved pair moved after) (ordered : pair.target.heap.Ordered) :
    after.target.heap.used = pair.target.heap.used + carried pair moved := by
  -- seen from after the migration, the target was without what has arrived
  have before : ∀ address, pair.target.heap.content? address =
      if address ∈ moved.map Prod.snd then none else after.target.heap.content? address := by
    intro address
    by_cases new : address ∈ moved.map Prod.snd
    · rw [if_pos new, ordered.content?_of_next_le (run.fresh address new)]
    · rw [if_neg new, run.stayed address new]
  have sum := run.targetOrdered.used_without ordered run.distinct before
  have sizes : (moved.map Prod.snd).map after.target.heap.sizeAt =
      moved.map fun entry => pair.source.heap.sizeAt entry.1 := by
    rw [List.map_map]
    refine List.map_congr_left fun entry member => ?_
    show Option.getD _ 0 = Option.getD _ 0
    rw [run.arrived entry member]
  rw [sizes] at sum
  exact sum.symm

/-! ### The devices after a migration -/

/-- The storage of a variable of one of the modules on the target. -/
def IsMirror (pair : DevicePair SimulatedDevice) (modules : List KernelModule) (address : Address) :
    Prop :=
  ∃ module ∈ modules, ∃ global ∈ module.globals, ∃ allocation,
    DeviceDriver.globalAllocation? module.name global.name pair.target = some allocation ∧
      allocation.address = address

/-- All memory of the source has moved to the target. -/
structure Migrated (modules : List KernelModule) (pair : DevicePair SimulatedDevice)
    (moved : AddressMap) (after : DevicePair SimulatedDevice) : Prop where
  /-- What moved is what the source held besides the storage of global variables. -/
  keys : ∀ address, address ∈ moved.map Prod.fst ↔
    ∃ content, pair.source.heap.content? address = some content ∧ content.residency ≠ .global
  once : (moved.map Prod.fst).Nodup
  /-- It is on the target with the same bytes and the same residency, -/
  arrived : ∀ entry ∈ moved, ∃ content, pair.source.heap.content? entry.1 = some content ∧
    after.target.heap.content? entry.2 = some content
  /-- where nothing was, -/
  fresh : ∀ entry ∈ moved, pair.target.heap.content? entry.2 = none
  /-- each allocation at an address of its own. -/
  distinct : (moved.map Prod.snd).Nodup
  /-- The source keeps the storage of global variables, as it was, and nothing else. -/
  left : ∀ address content, after.source.heap.content? address = some content ↔
    pair.source.heap.content? address = some content ∧ content.residency = .global
  /-- Every variable of the modules has storage on both devices, and the one on the target holds
  what the one on the source holds. -/
  mirrored : ∀ module ∈ modules, ∀ global ∈ module.globals, ∃ one other bytes old,
    DeviceDriver.globalAllocation? module.name global.name pair.source = some one ∧
    DeviceDriver.globalAllocation? module.name global.name pair.target = some other ∧
    pair.source.heap.content? one.address = some ⟨.global, bytes⟩ ∧
    pair.target.heap.content? other.address = some ⟨.global, old⟩ ∧
    after.target.heap.content? other.address = some ⟨.global, bytes⟩ ∧ old.length = bytes.length
  /-- All else on the target is as it was. -/
  stayed : ∀ address, address ∉ moved.map Prod.snd → ¬ IsMirror pair modules address →
    after.target.heap.content? address = pair.target.heap.content? address
  sourceUsed : after.source.heap.used + carried pair moved = pair.source.heap.used
  targetUsed : after.target.heap.used = pair.target.heap.used + carried pair moved
  /-- Migrating again moves nothing. -/
  again : ∃ final, migrate modules after = .ok [] final

/-- Storage that is still live is given as it was. -/
theorem globalAllocation?_kept {device later : SimulatedDevice} (orderly : device.Orderly)
    (modules : later.modules = device.modules) (keeps : device.heap.KeepsGlobals later.heap)
    {name symbol : String} {allocation : Allocation}
    (found : device.globalAllocation? name symbol = some allocation) :
    later.globalAllocation? name symbol = some allocation := by
  obtain ⟨_, _, bytes, _, _, _, live, size, _⟩ := orderly.globalAllocation?_inv found
  obtain ⟨held, stays, length⟩ := keeps allocation.address bytes live
  unfold SimulatedDevice.globalAllocation? SimulatedDevice.loaded? at found ⊢
  rw [modules]
  obtain ⟨loaded, there, found⟩ := Option.bind_eq_some_iff.mp found
  obtain ⟨address, placed, described⟩ := Option.bind_eq_some_iff.mp found
  have here : address = allocation.address := by
    obtain ⟨cell, _, rfl⟩ := Option.map_eq_some_iff.mp described
    rfl
  subst here
  refine Option.bind_eq_some_iff.mpr ⟨loaded, there, Option.bind_eq_some_iff.mpr ⟨_, placed, ?_⟩⟩
  rw [SimulatedDevice.info?_of_content? live] at described
  rw [SimulatedDevice.info?_of_content? stays, length]
  exact described

/-- Where nothing but storage of global variables is left, migrating again moves nothing. -/
theorem migrate_again (source : pair.source.Orderly) (target : pair.target.Orderly)
    (found : storagePairs pair modules = .ok storage)
    (sourceModules : after.source.modules = pair.source.modules)
    (targetModules : after.target.modules = pair.target.modules)
    (here : pair.source.heap.KeepsGlobals after.source.heap)
    (there : pair.target.heap.KeepsGlobals after.target.heap)
    (sourceOrdered : after.source.heap.Ordered) (targetOrdered : after.target.heap.Ordered)
    (emptied : ∀ address, after.source.heap.data? address = none) :
    ∃ final, migrate modules after = .ok [] final := by
  have kept : ∀ {module : KernelModule} {global : GlobalVariable} {entry : Allocation × Allocation},
      storagePair pair module global = .ok entry →
        storagePair after module global = .ok entry := by
    intro module global entry paired
    obtain ⟨one, other⟩ := storagePair_eq_ok_iff.mp paired
    exact storagePair_eq_ok_iff.mpr ⟨globalAllocation?_kept source sourceModules here one,
      globalAllocation?_kept target targetModules there other⟩
  have nothing : after.source.heap.nonGlobal = [] := by
    refine List.eq_nil_iff_forall_not_mem.mpr fun allocation member => ?_
    obtain ⟨content, held, _⟩ := sourceOrdered.mem_nonGlobal.mp member
    rw [emptied] at held
    cases held
  obtain ⟨given, asked⟩ := storagePairs_eq_ok found
  cases again : storagePairs after modules with
  | error error =>
    obtain ⟨⟨module, global⟩, among, failed⟩ := Action.except_mapM_eq_error again
    obtain ⟨_, listed, among⟩ := List.mem_flatMap.mp among
    obtain ⟨_, named, same⟩ := List.mem_map.mp among
    cases same
    obtain ⟨entry, _, paired⟩ := asked module listed global named
    cases failed.symm.trans (kept paired)
  | ok entries =>
    have backs : ∀ entry ∈ entries,
        Backs after.source.heap entry.1 ∧ Backs after.target.heap entry.2 := by
      intro entry member
      obtain ⟨module, listed, global, named, paired⟩ := (storagePairs_eq_ok again).1 entry member
      obtain ⟨first, among, was⟩ := asked module listed global named
      obtain rfl := Except.ok.inj (paired.symm.trans (kept was))
      obtain ⟨leaving, entering⟩ := storagePairs_backs source target found entry among
      exact ⟨leaving.mono here, entering.mono there⟩
    obtain ⟨final, copied, _⟩ := copyGlobals_run targetOrdered backs
    refine ⟨final, ?_⟩
    rw [migrate_of_ok again, nothing]
    exact (Action.bind_of_ok rfl).trans (Action.bind_of_ok copied)

/-- What moved is the data of the source. -/
theorem Moved.mem_keys (ordered : pair.source.heap.Ordered)
    (keys : moved.map Prod.fst = pair.source.heap.nonGlobal.map Allocation.address)
    (address : Address) :
    address ∈ moved.map Prod.fst ↔
      ∃ content, pair.source.heap.content? address = some content ∧
        content.residency ≠ .global := by
  rw [keys, mem_map_nonGlobal ordered]
  simp only [Heap.data?_eq_some_iff]

/-- What has not moved is storage of global variables. -/
theorem Moved.remains (run : Moved pair moved after)
    (keys : ∀ address, address ∈ moved.map Prod.fst ↔
      ∃ content, pair.source.heap.content? address = some content ∧ content.residency ≠ .global)
    (address : Address) (content : Content) :
    after.source.heap.content? address = some content ↔
      pair.source.heap.content? address = some content ∧ content.residency = .global := by
  rw [run.left]
  by_cases among : address ∈ moved.map Prod.fst
  · obtain ⟨held, live, kind⟩ := (keys address).mp among
    rw [if_pos among, live]
    simp only [reduceCtorEq, Option.some.injEq, false_iff, not_and]
    rintro rfl
    exact kind
  · rw [if_neg among]
    refine ⟨fun live => ⟨live, ?_⟩, And.left⟩
    by_contra kind
    exact among ((keys address).mpr ⟨content, live, kind⟩)

/-- Storage that is copied to was there before anything moved. -/
theorem Moved.not_mem_storage (run : Moved pair moved middle)
    (ordered : pair.target.heap.Ordered)
    (backs : ∀ entry ∈ storage, Backs pair.target.heap entry.2) {entry : Address × Address}
    (member : entry ∈ moved) : entry.2 ∉ storage.map fun other => other.2.address := by
  intro among
  obtain ⟨other, listed, same⟩ := List.mem_map.mp among
  obtain ⟨bytes, live, _⟩ := backs other listed
  rw [same] at live
  exact absurd (ordered.lt_next live)
    (Nat.not_lt.mpr (run.fresh entry.2 (List.mem_map_of_mem member)))

/-- After all memory has moved and the variables are copied, both devices hold what they should. -/
theorem Moved.migrated (run : Moved pair moved middle) (copied : Copied middle storage after)
    (source : pair.source.Orderly) (target : pair.target.Orderly)
    (found : storagePairs pair modules = .ok storage) (paired : Paired storage)
    (all : moved.map Prod.fst = pair.source.heap.nonGlobal.map Allocation.address) :
    Migrated modules pair moved after := by
  have keys := Moved.mem_keys source.ordered all
  have remains := run.remains keys
  have once : (moved.map Prod.fst).Nodup := all ▸ source.ordered.nonGlobal_nodup
  have backs := storagePairs_backs source target found
  obtain ⟨given, asked⟩ := storagePairs_eq_ok found
  obtain ⟨here, there⟩ := run.keepsGlobals target.ordered fun address member => by
    rwa [all, mem_map_nonGlobal source.ordered] at member
  rw [← copied.sourceHeap] at remains here
  refine ⟨keys, once, fun entry member => ?_, fun entry member => ?_, run.distinct, remains,
    fun module listed global named => ?_, fun address absent foreign => ?_, ?_, ?_, ?_⟩
  · obtain ⟨content, live, _⟩ := (keys entry.1).mp (List.mem_map_of_mem member)
    have apart := run.not_mem_storage target.ordered (fun entry member => (backs entry member).2)
      member
    refine ⟨content, live, ?_⟩
    rw [copied.stayed entry.2 apart, run.arrived entry member, live]
  · exact target.ordered.content?_of_next_le (run.fresh entry.2 (List.mem_map_of_mem member))
  · obtain ⟨⟨one, other⟩, among, pairing⟩ := asked module listed global named
    obtain ⟨first, second⟩ := storagePair_eq_ok_iff.mp pairing
    obtain ⟨⟨bytes, live, size⟩, ⟨old, held, room⟩⟩ := backs _ among
    have sizes : one.size = other.size := paired.sizes _ among
    refine ⟨one, other, bytes, old, first, second, live, held, ?_, ?_⟩
    · rw [copied.arrived paired _ among, ← copied.sourceHeap]
      exact (remains one.address _).mpr ⟨live, rfl⟩
    · rw [room, size, sizes]
  · rw [copied.stayed, run.stayed address absent]
    intro among
    obtain ⟨entry, member, rfl⟩ := List.mem_map.mp among
    obtain ⟨module, listed, global, named, pairing⟩ := given entry member
    exact foreign
      ⟨module, listed, global, named, entry.2, (storagePair_eq_ok_iff.mp pairing).2, rfl⟩
  · rw [copied.sourceHeap]
    exact run.carried_source source.ordered once
  · rw [copied.used]
    exact run.carried_target target.ordered
  · refine migrate_again source target found (copied.sourceModules.trans run.sourceModules)
      (copied.targetModules.trans run.targetModules) here (fun address bytes live => ?_) ?_
      copied.ordered fun address => ?_
    · obtain ⟨held, stands, length⟩ := there address bytes live
      obtain ⟨final, stays, longer⟩ := copied.keeps address held stands
      exact ⟨final, stays, longer.trans length⟩
    · rw [copied.sourceHeap]
      exact run.sourceOrdered
    · refine Option.eq_none_iff_forall_ne_some.mpr fun content held => ?_
      obtain ⟨live, kind⟩ := Heap.data?_eq_some_iff.mp held
      exact kind ((remains address content).mp live).2

/-- **A migration that succeeds** has moved all memory and copied the variables of the modules, and
nothing else has changed. -/
theorem migrate_relocates (source : pair.source.InUse) (target : pair.target.InUse)
    (same : ∀ module ∈ modules, pair.source.HoldsAs module ∧ pair.target.HoldsAs module)
    (done : migrate modules pair = .ok moved after) : Migrated modules pair moved after := by
  have orderly := source.reached.orderly
  have orderly' := target.reached.orderly
  cases found : storagePairs pair modules with
  | error error =>
    rw [migrate_of_error found] at done
    cases done
  | ok storage =>
    obtain ⟨entries, middle, run, keys, outcome⟩ := migrate_outcome orderly orderly' found
    rcases outcome with ⟨_, _, _, failed⟩ | ⟨all, last, ran, copied⟩
    · rw [failed] at done
      cases done
    · rw [ran] at done
      cases done
      rw [all] at keys
      exact run.migrated copied orderly orderly' found
        (storagePairs_paired source target same found) keys

/-- A module of one variable. -/
def tabled : KernelModule where
  name := "m"
  kernels := []
  globals := [⟨"table", 4, some [9, 8, 7, 6]⟩]
  source := "\x7b\"globals\":[\x7b\"name\":\"table\",\"size\":4,\"init\":[9,8,7,6]\x7d]\x7d"

/-- A device that holds the module, after other requests. -/
def tabledOn (number : Nat) (requests : List SimulatedDevice.Request) : SimulatedDevice :=
  (.select :: .loadModule tabled :: requests).foldl SimulatedDevice.Request.perform
    (.new number (.gpu "a" 64))

theorem tabledOn_inUse (number : Nat) {requests : List SimulatedDevice.Request}
    (read : ∀ request ∈ requests, request.IsRead) : (tabledOn number requests).InUse := by
  have parsed : KernelModule.parse tabled.name tabled.source = .ok tabled := by decide +kernel
  exact SimulatedDevice.InUse.foldl (.new number (.gpu "a" 64))
    (List.forall_mem_cons.mpr ⟨trivial, List.forall_mem_cons.mpr ⟨parsed, read⟩⟩)

/-- Private and host-visible memory with contents, and the variable overwritten. -/
def laden : List SimulatedDevice.Request :=
  [.write ⟨4294967296⟩ 0 (.ofBytes [1, 1, 1, 1]), .allocate 3,
    .write ⟨4294967552⟩ 0 (.ofBytes [1, 2, 3]), .allocateHost 2 .mapped,
    .write ⟨4294967808⟩ 1 (.ofBytes [5]), .unselect]

/-- Both allocations move, and a device that has one of its own takes them behind it. -/
theorem migrate_relocates_laden :
    ∃ after, migrate [tabled] ⟨tabledOn 1 laden, tabledOn 2 [.allocate 1, .unselect]⟩ =
        .ok [(⟨4294967552⟩, ⟨8589935104⟩), (⟨4294967808⟩, ⟨8589935360⟩)] after ∧
      Migrated [tabled] ⟨tabledOn 1 laden, tabledOn 2 [.allocate 1, .unselect]⟩
        [(⟨4294967552⟩, ⟨8589935104⟩), (⟨4294967808⟩, ⟨8589935360⟩)] after := by
  have places : (match migrate [tabled]
        ⟨tabledOn 1 laden, tabledOn 2 [.allocate 1, .unselect]⟩ with
      | .ok moved _ => some moved
      | .error _ _ => none) =
      some [(⟨4294967552⟩, ⟨8589935104⟩), (⟨4294967808⟩, ⟨8589935360⟩)] := by decide +kernel
  have texts : (tabledOn 1 laden).modules.map (fun loaded => loaded.module.source) =
        [tabled.source] ∧
      (tabledOn 2 [.allocate 1, .unselect]).modules.map (fun loaded => loaded.module.source) =
        [tabled.source] := by
    decide +kernel
  have held : ∀ {device : SimulatedDevice},
      device.modules.map (fun loaded => loaded.module.source) = [tabled.source] →
        device.HoldsAs tabled := by
    intro device same loaded found
    have member := List.mem_map_of_mem (f := fun loaded : LoadedModule => loaded.module.source)
      (List.mem_of_find?_eq_some found)
    rw [same] at member
    exact List.mem_singleton.mp member
  split at places
  · rename_i moved after ran
    obtain rfl := Option.some.inj places
    refine ⟨after, ran, migrate_relocates (tabledOn_inUse 1 ?_) (tabledOn_inUse 2 ?_) ?_ ran⟩
    · simp [laden, SimulatedDevice.Request.IsRead]
    · simp [SimulatedDevice.Request.IsRead]
    · exact List.forall_mem_singleton.mpr ⟨held texts.1, held texts.2⟩
  · cases places

end Migration

end ComputeHost
