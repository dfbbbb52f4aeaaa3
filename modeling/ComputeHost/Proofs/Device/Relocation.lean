/-
**Moving memory between two devices.**

Allocations move one after the other, until the target refuses one. `accepted` says which ones it
takes, and `Moved` what both devices hold when these have moved.

* `relocate_run` — exactly the accepted allocations move; the run fails if one is refused.
* `copyGlobals_run` — copying global variables never fails, and touches no data.
* `migrate_run` — a migration refuses before it moves anything, fails in the middle, or moves all.
* `migrate_outcome` — what both devices hold in the last two of these cases.
-/

import ComputeHost.Host.Relocation
import ComputeHost.Proofs.Device.Orderly
import ComputeHost.Proofs.Lookup

namespace ComputeHost

/-! ### What the target takes -/

/-- The allocations, in order, for which there is room. -/
def fitting : (room : Nat) → List Allocation → List Allocation
  | _, [] => []
  | room, allocation :: rest =>
    if allocation.size ≤ room then allocation :: fitting (room - allocation.size) rest else []

/-- The allocations, in order, that a device takes until it refuses one. -/
def SimulatedDevice.accepted (device : SimulatedDevice) (allocations : List Allocation) :
    List Allocation :=
  if device.switches.failAllocations then [] else fitting device.heap.available allocations

theorem SimulatedDevice.accepted_nil (device : SimulatedDevice) : device.accepted [] = [] := by
  unfold accepted fitting
  split <;> rfl

/-- The accepted allocations come first. -/
theorem fitting_prefix (room : Nat) (allocations : List Allocation) :
    fitting room allocations <+: allocations := by
  induction allocations generalizing room with
  | nil => exact List.prefix_rfl
  | cons allocation rest ih =>
    unfold fitting
    split
    · exact List.cons_prefix_cons.mpr ⟨rfl, ih _⟩
    · exact List.nil_prefix

theorem SimulatedDevice.accepted_prefix (device : SimulatedDevice)
    (allocations : List Allocation) : device.accepted allocations <+: allocations := by
  unfold accepted
  split
  · exact List.nil_prefix
  · exact fitting_prefix _ _

namespace SimulatedDevice

variable {device after : SimulatedDevice} {address : Address} {residency : Residency}
  {cause : DeviceError} {heap : Heap}

/-- A device refuses an allocation for lack of memory only, and then takes nothing of the list. -/
theorem reserve_error {allocation : Allocation}
    (refused : device.reserve residency allocation.size = .error cause heap)
    (rest : List Allocation) :
    (∃ requested available, cause = .outOfMemory requested available) ∧
      device.accepted (allocation :: rest) = [] := by
  refine ⟨(reserve_eq_error refused).2, ?_⟩
  unfold reserve at refused
  unfold accepted
  split at refused
  · rename_i fails
    exact if_pos fails
  · rename_i works
    obtain ⟨full, _⟩ := Heap.allocate_eq_error_iff.mp refused
    rw [if_neg works, fitting, if_neg (by omega)]

/-- What a device takes, it takes before the rest. -/
theorem accepted_cons {allocation : Allocation}
    (made : device.reserve residency allocation.size = .ok address heap)
    (switches : after.switches = device.switches)
    (room : after.heap.available = device.heap.available - allocation.size)
    (rest : List Allocation) :
    device.accepted (allocation :: rest) = allocation :: after.accepted rest := by
  have fits := (Heap.allocate_inv (reserve_ok made)).1
  unfold reserve at made
  split at made
  · cases made
  · rename_i works
    unfold accepted
    rw [switches, room, if_neg works, if_neg works, fitting, if_pos fits]

end SimulatedDevice

namespace Migration

/-! ### One operation -/

section

variable {α : Type} {pair : DevicePair SimulatedDevice} {action : DeviceAction SimulatedDevice α}
  {value : α} {device : SimulatedDevice} {cause : DeviceError}

theorem onSource_of_ok (done : DeviceDriver.selected action pair.source = .ok value device) :
    onSource action pair = .ok value { pair with source := device } := by
  unfold onSource
  rw [done]

theorem onTarget_of_ok {source target : SimulatedDevice}
    (done : DeviceDriver.selected action target = .ok value device) :
    onTarget action ⟨source, target⟩ = .ok value ⟨source, device⟩ := by
  unfold onTarget
  rw [done]

theorem onTarget_of_error
    (failed : DeviceDriver.selected action pair.target = .error cause device) :
    onTarget action pair = .error (.device cause) { pair with target := device } := by
  unfold onTarget
  rw [failed]

theorem sourceView_of_some {address : Address} {view : Block}
    (seen : pair.source.heap.hostView address = some view) :
    sourceView address pair = .ok view pair := by
  have viewed : DeviceDriver.hostView address pair.source = (some view, pair.source) :=
    congrArg (·, pair.source) seen
  unfold sourceView
  rw [viewed]

end

/-! ### One allocation -/

/-- The devices after the entries of `moved` have moved, in the order of moving. -/
structure Moved (pair : DevicePair SimulatedDevice) (moved : AddressMap)
    (after : DevicePair SimulatedDevice) : Prop where
  sourceOrdered : after.source.heap.Ordered
  targetOrdered : after.target.heap.Ordered
  sourceModules : after.source.modules = pair.source.modules
  targetModules : after.target.modules = pair.target.modules
  /-- What moved has left the source, and nothing else. -/
  left : ∀ address, after.source.heap.content? address =
    if address ∈ moved.map Prod.fst then none else pair.source.heap.content? address
  /-- What moved is on the target as it was on the source. -/
  arrived : ∀ entry ∈ moved,
    after.target.heap.content? entry.2 = pair.source.heap.content? entry.1
  /-- All else on the target is as it was. -/
  stayed : ∀ address, address ∉ moved.map Prod.snd →
    after.target.heap.content? address = pair.target.heap.content? address
  /-- The new addresses were not used before. -/
  fresh : ∀ address ∈ moved.map Prod.snd, pair.target.heap.next ≤ address.value
  distinct : (moved.map Prod.snd).Nodup
  next_le : pair.target.heap.next ≤ after.target.heap.next

/-- The allocation describes data that a heap holds. -/
def Describes (allocation : Allocation) (heap : Heap) : Prop :=
  ∃ content, heap.data? allocation.address = some content ∧
    allocation.size = content.bytes.length ∧ allocation.residency = content.residency

variable {pair middle after : DevicePair SimulatedDevice} {allocation : Allocation}
  {rest : List Allocation} {moved : AddressMap} {address : Address}

theorem Moved.nil (source : after.source.heap = pair.source.heap)
    (target : after.target.heap = pair.target.heap)
    (sourceModules : after.source.modules = pair.source.modules)
    (targetModules : after.target.modules = pair.target.modules)
    (sourceOrdered : pair.source.heap.Ordered) (targetOrdered : pair.target.heap.Ordered) :
    Moved pair [] after := by
  refine ⟨?_, ?_, sourceModules, targetModules, ?_, ?_, ?_, ?_, ?_, ?_⟩ <;> simp_all

/-- Copying one allocation fails where the target refuses it. -/
theorem copyOver_of_refused (describes : Describes allocation pair.source.heap)
    {cause : DeviceError} {heap : Heap}
    (refused : pair.target.reserve allocation.residency allocation.size = .error cause heap) :
    ∃ after, copyOver allocation pair = .error (.device cause) after ∧
      after.source.heap = pair.source.heap ∧ after.source.modules = pair.source.modules ∧
      after.target.heap = pair.target.heap ∧ after.target.modules = pair.target.modules := by
  obtain ⟨content, held, size, kind⟩ := describes
  obtain ⟨live, data⟩ := Heap.data?_eq_some_iff.mp held
  obtain ⟨rfl, _⟩ := SimulatedDevice.reserve_eq_error refused
  unfold copyOver
  cases residency : allocation.residency with
  | deviceOnly =>
    obtain ⟨block, read, _⟩ := Heap.read_ok live 0 allocation.size (by omega)
    have reading := SimulatedDevice.selected_read allocation.address 0 allocation.size pair.source
    rw [read] at reading
    have allocating := SimulatedDevice.selected_allocate allocation.size pair.target
    rw [← residency, refused] at allocating
    refine ⟨_, (Action.bind_of_ok (onSource_of_ok reading)).trans
      (Action.bind_of_error (onTarget_of_error allocating)), rfl, rfl, rfl, rfl⟩
  | hostVisible flags =>
    have allocating := SimulatedDevice.selected_allocateHost allocation.size flags pair.target
    rw [← residency, refused] at allocating
    exact ⟨_, Action.bind_of_error (onTarget_of_error allocating), rfl, rfl, rfl, rfl⟩
  | global => exact absurd (kind.symm.trans residency) data

/-- Copying one allocation that the target accepts changes the target at the new address only. -/
theorem copyOver_of_reserved (ordered : pair.target.heap.Ordered)
    (describes : Describes allocation pair.source.heap) {heap : Heap}
    (made : pair.target.reserve allocation.residency allocation.size = .ok address heap) :
    ∃ after, copyOver allocation pair = .ok (some address) after ∧
      after.source.heap = pair.source.heap ∧ after.source.modules = pair.source.modules ∧
      after.target.modules = pair.target.modules ∧
      after.target.switches = pair.target.switches ∧
      after.target.heap.Ordered ∧ after.target.heap.next = heap.next ∧
      after.target.heap.available = heap.available ∧
      ∀ place, after.target.heap.content? place =
        if place = address then pair.source.heap.content? allocation.address
        else pair.target.heap.content? place := by
  obtain ⟨content, held, size, kind⟩ := describes
  obtain ⟨live, data⟩ := Heap.data?_eq_some_iff.mp held
  have done := SimulatedDevice.reserve_ok made
  -- writes a block with the bytes of the source to the new address
  have filling : ∀ block : Block, block.bytes = content.bytes →
      ∃ filled, Heap.write address 0 block heap = .ok () filled ∧ filled.Ordered ∧
        filled.next = heap.next ∧ filled.available = heap.available ∧
        ∀ place, filled.content? place =
          if place = address then pair.source.heap.content? allocation.address
          else pair.target.heap.content? place := by
    intro block same
    have length : block.size = allocation.size := by
      rw [← Block.bytes_length, same, size]
    obtain ⟨filled, wrote, order, next, available, view⟩ := ordered.fill done length
    refine ⟨filled, wrote, order, next, available, fun place => ?_⟩
    rw [view place, live, same, kind]
  let writable : SimulatedDevice := { pair.target.visited with heap }
  unfold copyOver
  cases residency : allocation.residency with
  | deviceOnly =>
    obtain ⟨block, read, bytes⟩ := Heap.read_ok live 0 allocation.size (by omega)
    obtain ⟨filled, wrote, order, next, available, view⟩ := filling block
      (by rw [bytes, size, Bytes.slice_all])
    have reading := SimulatedDevice.selected_read allocation.address 0 allocation.size pair.source
    rw [read] at reading
    have allocating := SimulatedDevice.selected_allocate allocation.size pair.target
    rw [← residency, made] at allocating
    have writing := SimulatedDevice.selected_write address 0 block writable
    rw [show Heap.write address 0 block writable.heap = .ok () filled from wrote] at writing
    refine ⟨⟨pair.source.visited, { writable.visited with heap := filled }⟩, ?_, rfl, rfl, rfl, rfl,
      order, next, available, view⟩
    exact (Action.bind_of_ok (onSource_of_ok reading)).trans
      ((Action.bind_of_ok (onTarget_of_ok allocating)).trans
        (Action.bind_of_ok (onTarget_of_ok writing)))
  | hostVisible flags =>
    obtain ⟨block, seen, bytes⟩ := Heap.hostView_eq live (kind.symm.trans residency)
    obtain ⟨filled, wrote, order, next, available, view⟩ := filling block bytes
    have allocating := SimulatedDevice.selected_allocateHost allocation.size flags pair.target
    rw [← residency, made] at allocating
    have viewing : sourceView allocation.address ⟨pair.source, writable⟩ =
        .ok block ⟨pair.source, writable⟩ := sourceView_of_some seen
    have writing := SimulatedDevice.selected_write address 0 block writable
    rw [show Heap.write address 0 block writable.heap = .ok () filled from wrote] at writing
    refine ⟨⟨pair.source, { writable.visited with heap := filled }⟩, ?_, rfl, rfl, rfl, rfl,
      order, next, available, view⟩
    exact (Action.bind_of_ok (onTarget_of_ok allocating)).trans
      ((Action.bind_of_ok viewing).trans (Action.bind_of_ok (onTarget_of_ok writing)))
  | global => exact absurd (kind.symm.trans residency) data

/-! ### A list of allocations -/

/-- An entry that moved first, and the entries that moved after it. -/
theorem Moved.cons {old new : Address} {content : Content} (first : Moved pair [(old, new)] middle)
    (later : Moved middle moved after) (live : pair.source.heap.content? old = some content)
    (once : old ∉ moved.map Prod.fst) : Moved pair ((old, new) :: moved) after := by
  have there : middle.target.heap.content? new = some content := by
    rw [first.arrived (old, new) (List.mem_singleton_self _), live]
  have below := first.targetOrdered.lt_next there
  have other : new ∉ moved.map Prod.snd := fun member => by
    have beyond := later.fresh new member
    omega
  refine ⟨later.sourceOrdered, later.targetOrdered,
    later.sourceModules.trans first.sourceModules,
    later.targetModules.trans first.targetModules, fun address => ?_, ?_, fun address absent => ?_,
    ?_, ?_, Nat.le_trans first.next_le later.next_le⟩
  · rw [later.left, first.left]
    by_cases here : address = old <;> by_cases among : address ∈ moved.map Prod.fst <;>
      simp [here, among]
  · rw [List.forall_mem_cons]
    refine ⟨?_, fun entry member => ?_⟩
    · rw [later.stayed new other, there, live]
    · have different : entry.1 ≠ old := fun same => once (same ▸ List.mem_map_of_mem member)
      rw [later.arrived entry member, first.left]
      simp [different]
  · rw [List.map_cons, List.mem_cons, not_or] at absent
    rw [later.stayed address absent.2]
    exact first.stayed address (by simpa using absent.1)
  · rw [List.map_cons, List.forall_mem_cons]
    refine ⟨first.fresh new (List.mem_singleton_self _), fun address member => ?_⟩
    exact Nat.le_trans first.next_le (later.fresh address member)
  · exact List.nodup_cons.mpr ⟨other, later.distinct⟩

theorem relocate_cons_of_refused (sourceOrdered : pair.source.heap.Ordered)
    (targetOrdered : pair.target.heap.Ordered)
    (describes : Describes allocation pair.source.heap) {cause : DeviceError} {heap : Heap}
    (refused : pair.target.reserve allocation.residency allocation.size = .error cause heap)
    (rest : List Allocation) :
    ∃ after, relocate (allocation :: rest) pair = .error (.device cause) after ∧
      Moved pair [] after := by
  obtain ⟨after, failed, source, sourceModules, target, targetModules⟩ :=
    copyOver_of_refused describes refused
  exact ⟨after, Action.bind_of_error failed,
    .nil source target sourceModules targetModules sourceOrdered targetOrdered⟩

/-- An accepted allocation moves, and then the rest does. -/
theorem relocate_cons_of_reserved (sourceOrdered : pair.source.heap.Ordered)
    (targetOrdered : pair.target.heap.Ordered)
    (describes : Describes allocation pair.source.heap) {heap : Heap}
    (made : pair.target.reserve allocation.residency allocation.size = .ok address heap)
    (rest : List Allocation) :
    ∃ middle, Moved pair [(allocation.address, address)] middle ∧
      middle.target.switches = pair.target.switches ∧
      middle.target.heap.available = pair.target.heap.available - allocation.size ∧
      relocate (allocation :: rest) pair =
        (do return (allocation.address, address) :: (← relocate rest) :
          MigrationAction SimulatedDevice AddressMap) middle := by
  obtain ⟨copied, run, source, sourceModules, targetModules, switches, order, next, available,
    view⟩ := copyOver_of_reserved targetOrdered describes made
  have done := SimulatedDevice.reserve_ok made
  obtain ⟨content, held, _⟩ := describes
  have live := (Heap.data?_eq_some_iff.mp held).1
  rw [← source] at live
  obtain ⟨heap', freed⟩ := Heap.free_ok live
  have freeing := SimulatedDevice.selected_free allocation.address copied.source
  rw [freed] at freeing
  have freed_view := Heap.content?_free freed
  have order' := (source ▸ sourceOrdered : copied.source.heap.Ordered).free freed
  refine ⟨⟨{ copied.source.visited with heap := heap' }, copied.target⟩, ?_, switches, ?_, ?_⟩
  · refine ⟨order', order, sourceModules, targetModules, fun place => ?_, ?_,
      fun place absent => ?_, ?_, List.nodup_singleton _, ?_⟩
    · simp only [freed_view, source, List.map_cons, List.map_nil, List.mem_singleton]
    · intro entry member
      obtain rfl := List.mem_singleton.mp member
      rw [view, if_pos rfl]
    · rw [view, if_neg (by simpa using absent)]
    · intro place member
      obtain rfl := List.mem_singleton.mp member
      exact Heap.next_le_fresh done
    · rw [next]
      exact Heap.next_le_allocate done
  · rw [available, Heap.available_allocate done]
  · exact (Action.bind_of_ok run).trans (Action.bind_of_ok (onSource_of_ok freeing))

/-- **What moves is what the target accepts**, and the run fails unless that is all. -/
theorem relocate_run (sourceOrdered : pair.source.heap.Ordered)
    (targetOrdered : pair.target.heap.Ordered) {allocations : List Allocation}
    (describes : ∀ allocation ∈ allocations, Describes allocation pair.source.heap)
    (distinct : (allocations.map Allocation.address).Nodup) :
    ∃ moved after, Moved pair moved after ∧
      moved.map Prod.fst = (pair.target.accepted allocations).map Allocation.address ∧
      ((pair.target.accepted allocations = allocations ∧
          relocate allocations pair = .ok moved after) ∨
        (pair.target.accepted allocations ≠ allocations ∧ ∃ requested available,
          relocate allocations pair =
            .error (.device (.outOfMemory requested available)) after)) := by
  induction allocations generalizing pair with
  | nil =>
    refine ⟨[], pair, .nil rfl rfl rfl rfl sourceOrdered targetOrdered, ?_, .inl ⟨?_, rfl⟩⟩
    · rw [SimulatedDevice.accepted_nil]
      rfl
    · exact SimulatedDevice.accepted_nil _
  | cons allocation rest ih =>
    rw [List.forall_mem_cons] at describes
    rw [List.map_cons, List.nodup_cons] at distinct
    cases made : pair.target.reserve allocation.residency allocation.size with
    | error cause heap =>
      obtain ⟨⟨requested, available, rfl⟩, nothing⟩ :=
        SimulatedDevice.reserve_error made rest
      obtain ⟨after, failed, moved⟩ :=
        relocate_cons_of_refused sourceOrdered targetOrdered describes.1 made rest
      rw [nothing]
      exact ⟨[], after, moved, rfl, .inr ⟨by simp, requested, available, failed⟩⟩
    | ok address heap =>
      obtain ⟨middle, first, switches, room, run⟩ :=
        relocate_cons_of_reserved sourceOrdered targetOrdered describes.1 made rest
      -- the rest still describes what the source holds
      have still : ∀ other ∈ rest, Describes other middle.source.heap := by
        intro other member
        obtain ⟨content, held, facts⟩ := describes.2 other member
        obtain ⟨live, data⟩ := Heap.data?_eq_some_iff.mp held
        have apart : other.address ≠ allocation.address := fun same =>
          distinct.1 (same ▸ List.mem_map_of_mem member)
        refine ⟨content, Heap.data?_eq_some_iff.mpr ⟨?_, data⟩, facts⟩
        rw [first.left, if_neg (by simpa using apart), live]
      obtain ⟨moved, after, later, keys, outcome⟩ :=
        ih first.sourceOrdered first.targetOrdered still distinct.2
      have taken := SimulatedDevice.accepted_cons made switches room rest
      have once : allocation.address ∉ moved.map Prod.fst := by
        rw [keys]
        intro member
        exact distinct.1 (((middle.target.accepted_prefix rest).sublist.map _).subset member)
      obtain ⟨content, held, _⟩ := describes.1
      have live := (Heap.data?_eq_some_iff.mp held).1
      refine ⟨(allocation.address, address) :: moved, after, first.cons later live once, ?_, ?_⟩
      · rw [taken, List.map_cons, List.map_cons, keys]
      · rw [taken, run]
        rcases outcome with ⟨all, ran⟩ | ⟨part, requested, available, failed⟩
        · left
          exact ⟨by rw [all], Action.bind_of_ok ran⟩
        · right
          refine ⟨fun same => part (List.cons_inj_right _ |>.mp same), requested, available, ?_⟩
          exact Action.bind_of_error failed

/-- Moving data leaves the storage of global variables where it is. -/
theorem Moved.keepsGlobals (run : Moved pair moved after) (target : pair.target.heap.Ordered)
    (data : ∀ address ∈ moved.map Prod.fst, ∃ content,
      pair.source.heap.data? address = some content) :
    pair.source.heap.KeepsGlobals after.source.heap ∧
      pair.target.heap.KeepsGlobals after.target.heap := by
  constructor
  · intro address bytes live
    have kept : address ∉ moved.map Prod.fst := by
      intro member
      obtain ⟨content, held⟩ := data address member
      obtain ⟨same, kind⟩ := Heap.data?_eq_some_iff.mp held
      obtain rfl := Option.some.inj (live.symm.trans same)
      exact kind rfl
    exact ⟨bytes, by rw [run.left, if_neg kept, live], rfl⟩
  · intro address bytes live
    have kept : address ∉ moved.map Prod.snd := by
      intro member
      have beyond := run.fresh address member
      have below := target.lt_next live
      omega
    exact ⟨bytes, by rw [run.stayed address kept, live], rfl⟩

/-- Both devices of a pair stay in good order while data moves. -/
theorem Moved.sound (run : Moved pair moved after) (source : pair.source.Sound)
    (target : pair.target.Sound)
    (data : ∀ address ∈ moved.map Prod.fst, ∃ content,
      pair.source.heap.data? address = some content) :
    after.source.Sound ∧ after.target.Sound := by
  obtain ⟨here, there⟩ := run.keepsGlobals target.ordered data
  exact ⟨source.of_heap run.sourceModules run.sourceOrdered here,
    target.of_heap run.targetModules run.targetOrdered there⟩

/-! ### Global variables -/

/-- The allocation describes storage of a global variable that a heap holds. -/
def Backs (heap : Heap) (allocation : Allocation) : Prop :=
  ∃ bytes, heap.content? allocation.address = some ⟨.global, bytes⟩ ∧
    bytes.length = allocation.size

theorem Backs.mono {heap after : Heap} (backs : Backs heap allocation)
    (keeps : heap.KeepsGlobals after) : Backs after allocation := by
  obtain ⟨bytes, live, size⟩ := backs
  obtain ⟨held, stays, length⟩ := keeps _ bytes live
  exact ⟨held, stays, length.trans size⟩

/-- The storage that a device gives for a variable is live. -/
theorem backs_of_globalAllocation? {device : SimulatedDevice} (orderly : device.Orderly)
    {module symbol : String}
    (found : device.globalAllocation? module symbol = some allocation) :
    Backs device.heap allocation := by
  obtain ⟨_, _, bytes, _, _, _, live, size, _⟩ := orderly.globalAllocation?_inv found
  exact ⟨bytes, live, size⟩

/-- The storage of a variable is looked up on each device by itself. -/
theorem storagePair_eq (pair : DevicePair SimulatedDevice) (module : KernelModule)
    (global : GlobalVariable) :
    storagePair pair module global =
      match pair.source.globalAllocation? module.name global.name,
        pair.target.globalAllocation? module.name global.name with
      | some source, some target => .ok (source, target)
      | _, _ =>
        .error (.invalidValue
          ("global '" ++ global.name ++ "' of module '" ++ module.name ++
            "' is not mirrored on both devices")) := rfl

theorem storagePair_eq_ok_iff {module : KernelModule} {global : GlobalVariable}
    {entry : Allocation × Allocation} :
    storagePair pair module global = .ok entry ↔
      pair.source.globalAllocation? module.name global.name = some entry.1 ∧
        pair.target.globalAllocation? module.name global.name = some entry.2 := by
  rw [storagePair_eq]
  split
  · rename_i one other here there
    simp [here, there, Prod.ext_iff]
  · rename_i missing
    constructor
    · rintro ⟨⟩
    · rintro ⟨here, there⟩
      exact absurd there (missing _ _ here)

/-- The storage found is that of the variables of the modules. -/
theorem storagePairs_eq_ok {modules : List KernelModule} {entries : List (Allocation × Allocation)}
    (found : storagePairs pair modules = .ok entries) :
    (∀ entry ∈ entries, ∃ module ∈ modules, ∃ global ∈ module.globals,
      storagePair pair module global = .ok entry) ∧
      ∀ module ∈ modules, ∀ global ∈ module.globals, ∃ entry ∈ entries,
        storagePair pair module global = .ok entry := by
  obtain ⟨given, asked⟩ := Action.except_mapM_eq_ok found
  constructor
  · intro entry member
    obtain ⟨⟨module, global⟩, among, here⟩ := given entry member
    obtain ⟨other, listed, among⟩ := List.mem_flatMap.mp among
    obtain ⟨_, named, same⟩ := List.mem_map.mp among
    cases same
    exact ⟨module, listed, global, named, here⟩
  · intro module listed global named
    exact asked (module, global)
      (List.mem_flatMap.mpr ⟨module, listed, List.mem_map_of_mem named⟩)

/-- The storage found for global variables is live on both devices. -/
theorem storagePairs_backs (source : pair.source.Orderly) (target : pair.target.Orderly)
    {modules : List KernelModule} {entries : List (Allocation × Allocation)}
    (found : storagePairs pair modules = .ok entries) :
    ∀ entry ∈ entries, Backs pair.source.heap entry.1 ∧ Backs pair.target.heap entry.2 := by
  intro entry member
  obtain ⟨module, _, global, _, paired⟩ := (storagePairs_eq_ok found).1 entry member
  obtain ⟨here, there⟩ := storagePair_eq_ok_iff.mp paired
  exact ⟨backs_of_globalAllocation? source here, backs_of_globalAllocation? target there⟩

/-- Storage of the target has one counterpart. -/
def Matched (entries : List (Allocation × Allocation)) : Prop :=
  ∀ one ∈ entries, ∀ other ∈ entries, one.2.address = other.2.address → one = other

/-- Each storage of the target is that of one variable. -/
theorem storagePairs_matched (target : pair.target.Orderly) {modules : List KernelModule}
    {entries : List (Allocation × Allocation)} (found : storagePairs pair modules = .ok entries) :
    Matched entries := by
  intro one member other among same
  obtain ⟨given, _⟩ := storagePairs_eq_ok found
  obtain ⟨module, _, global, _, paired⟩ := given one member
  obtain ⟨module', _, global', _, paired'⟩ := given other among
  obtain ⟨here, there⟩ := storagePair_eq_ok_iff.mp paired
  obtain ⟨here', there'⟩ := storagePair_eq_ok_iff.mp paired'
  -- one place on the target belongs to one variable, which has one place on the source
  obtain ⟨name, symbol⟩ := target.globals_apart there there' same
  rw [name, symbol, here'] at here
  rw [name, symbol, there'] at there
  exact Prod.ext (Option.some.inj here).symm (Option.some.inj there).symm

/-- A variable that is not on both devices is an invalid value. -/
theorem storagePairs_error {δ : Type} [DeviceDriver δ] {pair : DevicePair δ}
    {modules : List KernelModule} {error : HostError}
    (missing : storagePairs pair modules = .error error) :
    ∃ reason, error = .invalidValue reason := by
  obtain ⟨⟨module, global⟩, _, here⟩ := Action.except_mapM_eq_error missing
  simp only at here
  unfold storagePair at here
  split at here
  · cases here
  · cases here
    exact ⟨_, rfl⟩

/-- Storage of one size in every pair, and one counterpart for all storage of the target. -/
structure Paired (entries : List (Allocation × Allocation)) : Prop where
  sizes : ∀ entry ∈ entries, entry.1.size = entry.2.size
  single : ∀ one ∈ entries, ∀ other ∈ entries, one.2.address = other.2.address →
    one.1.address = other.1.address

/-- The devices after global variables were copied. -/
structure Copied (pair : DevicePair SimulatedDevice) (entries : List (Allocation × Allocation))
    (after : DevicePair SimulatedDevice) : Prop where
  sourceHeap : after.source.heap = pair.source.heap
  sourceModules : after.source.modules = pair.source.modules
  targetModules : after.target.modules = pair.target.modules
  ordered : after.target.heap.Ordered
  used : after.target.heap.used = pair.target.heap.used
  keeps : pair.target.heap.KeepsGlobals after.target.heap
  data : ∀ address, after.target.heap.data? address = pair.target.heap.data? address
  /-- All else on the target is as it was. -/
  stayed : ∀ address, address ∉ entries.map (fun entry => entry.2.address) →
    after.target.heap.content? address = pair.target.heap.content? address
  /-- What is copied is on the target as it is on the source. -/
  arrived : Paired entries → ∀ entry ∈ entries,
    after.target.heap.content? entry.2.address = pair.source.heap.content? entry.1.address

theorem Copied.nil (ordered : pair.target.heap.Ordered) : Copied pair [] pair :=
  ⟨rfl, rfl, rfl, ordered, rfl, fun _ bytes live => ⟨bytes, live, rfl⟩, fun _ => rfl,
    fun _ _ => rfl, fun _ => List.forall_mem_nil _⟩

theorem Copied.cons {entry : Allocation × Allocation} {rest : List (Allocation × Allocation)}
    (first : Copied pair [entry] middle) (later : Copied middle rest after) :
    Copied pair (entry :: rest) after := by
  refine ⟨later.sourceHeap.trans first.sourceHeap, later.sourceModules.trans first.sourceModules,
    later.targetModules.trans first.targetModules, later.ordered, later.used.trans first.used,
    fun address bytes live => ?_, fun address => (later.data address).trans (first.data address),
    fun address absent => ?_, fun paired => ?_⟩
  · obtain ⟨held, holds, long⟩ := first.keeps address bytes live
    obtain ⟨final, stands, longer⟩ := later.keeps address held holds
    exact ⟨final, stands, longer.trans long⟩
  · rw [List.map_cons, List.mem_cons, not_or] at absent
    rw [later.stayed address absent.2]
    exact first.stayed address (by simpa using absent.1)
  · have before := first.arrived ⟨fun one member => paired.sizes one (by simp_all),
      fun one member other among => paired.single one (by simp_all) other (by simp_all)⟩
    have beyond := later.arrived
      ⟨fun one member => paired.sizes one (List.mem_cons_of_mem _ member),
        fun one member other among => paired.single one (List.mem_cons_of_mem _ member) other
          (List.mem_cons_of_mem _ among)⟩
    rw [first.sourceHeap] at beyond
    refine List.forall_mem_cons.mpr ⟨?_, beyond⟩
    -- the storage is copied to again, or stays
    by_cases again : entry.2.address ∈ rest.map (fun entry => entry.2.address)
    · obtain ⟨other, member, same⟩ := List.mem_map.mp again
      have counterpart := paired.single other (List.mem_cons_of_mem _ member) entry
        List.mem_cons_self same
      rw [← same, beyond other member, counterpart]
    · rw [later.stayed _ again]
      exact before entry (List.mem_singleton_self _)

/-- Copying one global variable reads its storage on the source and writes it on the target. -/
theorem copyGlobals_step {entry : Allocation × Allocation}
    (leaving : Backs pair.source.heap entry.1) (entering : Backs pair.target.heap entry.2) :
    ∃ block filled,
      Heap.read entry.1.address 0 (min entry.1.size entry.2.size) pair.source.heap =
        .ok block pair.source.heap ∧
      Heap.write entry.2.address 0 block pair.target.heap = .ok () filled ∧
      ∀ rest, copyGlobals (entry :: rest) pair =
        copyGlobals rest ⟨pair.source.visited, { pair.target.visited with heap := filled }⟩ := by
  obtain ⟨one, other⟩ := entry
  obtain ⟨bytes, live, size⟩ := leaving
  obtain ⟨old, there, room⟩ := entering
  simp only at live size there room
  obtain ⟨block, read, bytes_eq⟩ :=
    Heap.read_ok live 0 (min one.size other.size) (by simp only; omega)
  have length : block.size ≤ old.length := by
    rw [← Block.bytes_length, bytes_eq, Bytes.slice, List.length_take, room]
    omega
  obtain ⟨filled, wrote⟩ := Heap.write_ok there 0 block (by simpa using length)
  have reading := SimulatedDevice.selected_read one.address 0 (min one.size other.size) pair.source
  rw [read] at reading
  have writing := SimulatedDevice.selected_write other.address 0 block pair.target
  rw [wrote] at writing
  exact ⟨block, filled, read, wrote, fun rest =>
    (Action.bind_of_ok (onSource_of_ok reading)).trans
      (Action.bind_of_ok (onTarget_of_ok writing))⟩

/-- Copying one global variable never fails. -/
theorem copyGlobals_cons (ordered : pair.target.heap.Ordered) {entry : Allocation × Allocation}
    (leaving : Backs pair.source.heap entry.1) (entering : Backs pair.target.heap entry.2) :
    ∃ middle, Copied pair [entry] middle ∧
      ∀ rest, copyGlobals (entry :: rest) pair = copyGlobals rest middle := by
  obtain ⟨block, filled, read, wrote, run⟩ := copyGlobals_step leaving entering
  obtain ⟨one, other⟩ := entry
  obtain ⟨bytes, live, size⟩ := leaving
  obtain ⟨old, there, room⟩ := entering
  simp only at live size there room read wrote
  obtain ⟨content, source, _, bytes_eq⟩ := Heap.read_inv read
  obtain rfl : content = ⟨.global, bytes⟩ := Option.some.inj (source.symm.trans live)
  obtain ⟨content, before, length, view⟩ := Heap.content?_write wrote
  obtain rfl : content = ⟨.global, old⟩ := Option.some.inj (before.symm.trans there)
  refine ⟨⟨pair.source.visited, { pair.target.visited with heap := filled }⟩,
    ⟨rfl, rfl, rfl, ordered.write wrote, (Heap.write_frame wrote).2.1,
      fun address held stands => ?_, fun address => ?_, fun address absent => ?_,
      fun paired => ?_⟩, run⟩
  · by_cases here : address = other.address
    · rw [here, there] at stands
      cases stands
      exact ⟨_, by rw [view, if_pos here], Bytes.splice_length (by simpa using length)⟩
    · exact ⟨held, by rw [view, if_neg here, stands], rfl⟩
  · unfold Heap.data?
    rw [view]
    by_cases here : address = other.address
    · rw [if_pos here, here, there]
      rfl
    · rw [if_neg here]
  · rw [view, if_neg (by simpa using absent)]
  · intro entry member
    obtain rfl := List.mem_singleton.mp member
    have same : one.size = other.size := paired.sizes _ member
    have whole : block.bytes = bytes := by
      rw [bytes_eq, ← same, Nat.min_self, ← size, Bytes.slice_all]
    rw [view, if_pos rfl, whole, Bytes.splice_all (by rw [size, same, room])]
    exact live.symm

/-- Copying global variables never fails, and changes storage of global variables of the target
only. -/
theorem copyGlobals_run (ordered : pair.target.heap.Ordered)
    {entries : List (Allocation × Allocation)}
    (backs : ∀ entry ∈ entries, Backs pair.source.heap entry.1 ∧ Backs pair.target.heap entry.2) :
    ∃ after, copyGlobals entries pair = .ok () after ∧ Copied pair entries after := by
  induction entries generalizing pair with
  | nil => exact ⟨pair, rfl, .nil ordered⟩
  | cons entry rest ih =>
    rw [List.forall_mem_cons] at backs
    obtain ⟨middle, first, run⟩ := copyGlobals_cons ordered backs.1.1 backs.1.2
    have still : ∀ other ∈ rest,
        Backs middle.source.heap other.1 ∧ Backs middle.target.heap other.2 := by
      intro other member
      obtain ⟨leaving, entering⟩ := backs.2 other member
      exact ⟨first.sourceHeap ▸ leaving, entering.mono first.keeps⟩
    obtain ⟨after, ran, later⟩ := ih first.ordered still
    exact ⟨after, (run rest).trans ran, first.cons later⟩

/-! ### The whole migration -/

/-- The devices after all memory has moved. -/
structure Shifted (pair : DevicePair SimulatedDevice) (moved : AddressMap)
    (after : DevicePair SimulatedDevice) : Prop where
  source : after.source.Sound
  target : after.target.Sound
  sourceModules : after.source.modules = pair.source.modules
  targetModules : after.target.modules = pair.target.modules
  /-- The entries are for the data of the source. -/
  keys : ∀ address, address ∈ moved.map Prod.fst ↔
    ∃ content, pair.source.heap.data? address = some content
  once : (moved.map Prod.fst).Nodup
  emptied : ∀ address, after.source.heap.data? address = none
  arrived : ∀ entry ∈ moved,
    after.target.heap.data? entry.2 = pair.source.heap.data? entry.1
  stayed : ∀ address, address ∉ moved.map Prod.snd →
    after.target.heap.data? address = pair.target.heap.data? address
  fresh : ∀ address ∈ moved.map Prod.snd, pair.target.heap.data? address = none
  distinct : (moved.map Prod.snd).Nodup

/-- What the source would lose to the target. -/
def listed (pair : DevicePair SimulatedDevice) : List Allocation :=
  pair.target.accepted pair.source.heap.nonGlobal

theorem migrate_of_error {modules : List KernelModule} {error : HostError}
    (missing : storagePairs pair modules = .error error) :
    migrate modules pair = .error error pair := by
  unfold migrate
  refine Action.bind_of_error ?_
  simp only [missing]

theorem migrate_of_ok {modules : List KernelModule} {storage : List (Allocation × Allocation)}
    (found : storagePairs pair modules = .ok storage) :
    migrate modules pair =
      (do
        let moved ← relocate pair.source.heap.nonGlobal
        copyGlobals storage
        return moved : MigrationAction SimulatedDevice AddressMap) pair := by
  unfold migrate
  refine (Action.bind_of_ok (?_ : _ = EStateM.Result.ok storage pair)).trans (Action.bind_of_ok rfl)
  simp only [found]

/-- The memory of a device is described by its list of allocations. -/
theorem describes_nonGlobal {heap : Heap} (ordered : heap.Ordered) :
    ∀ allocation ∈ heap.nonGlobal, Describes allocation heap :=
  fun _ member => ordered.mem_nonGlobal.mp member

/-- The data of a heap is at the addresses of its list of allocations. -/
theorem mem_map_nonGlobal {heap : Heap} (ordered : heap.Ordered) {address : Address} :
    address ∈ heap.nonGlobal.map Allocation.address ↔
      ∃ content, heap.data? address = some content := by
  rw [List.mem_map]
  constructor
  · rintro ⟨allocation, member, rfl⟩
    obtain ⟨content, held, _⟩ := ordered.mem_nonGlobal.mp member
    exact ⟨content, held⟩
  · rintro ⟨content, held⟩
    exact ⟨⟨address, content.bytes.length, content.residency⟩,
      ordered.mem_nonGlobal.mpr ⟨content, held, rfl, rfl⟩, rfl⟩

/-- What moves is data of the source. -/
theorem moved_data (ordered : pair.source.heap.Ordered)
    (keys : moved.map Prod.fst = (listed pair).map Allocation.address) :
    ∀ address ∈ moved.map Prod.fst, ∃ content,
      pair.source.heap.data? address = some content := by
  intro address member
  rw [keys] at member
  exact (mem_map_nonGlobal ordered).mp
    (((pair.target.accepted_prefix _).sublist.map _).subset member)

/-- **A migration whose variables are found** moves what the target accepts. It stops there, or
moves all memory and copies the variables. -/
theorem migrate_outcome (source : pair.source.Orderly) (target : pair.target.Orderly)
    {modules : List KernelModule} {storage : List (Allocation × Allocation)}
    (found : storagePairs pair modules = .ok storage) :
    ∃ moved middle, Moved pair moved middle ∧
      moved.map Prod.fst = (listed pair).map Allocation.address ∧
      ((listed pair ≠ pair.source.heap.nonGlobal ∧ ∃ requested available,
          migrate modules pair = .error (.device (.outOfMemory requested available)) middle) ∨
        (listed pair = pair.source.heap.nonGlobal ∧ ∃ after,
          migrate modules pair = .ok moved after ∧ Copied middle storage after)) := by
  rw [migrate_of_ok found]
  obtain ⟨moved, middle, run, keys, outcome⟩ := relocate_run source.ordered target.ordered
    (describes_nonGlobal source.ordered) source.ordered.nonGlobal_nodup
  refine ⟨moved, middle, run, keys, ?_⟩
  rcases outcome with ⟨all, ran⟩ | ⟨part, requested, available, failed⟩
  · right
    obtain ⟨here, there⟩ := run.keepsGlobals target.ordered (moved_data source.ordered keys)
    have backs : ∀ entry ∈ storage,
        Backs middle.source.heap entry.1 ∧ Backs middle.target.heap entry.2 := by
      intro entry member
      obtain ⟨leaving, entering⟩ := storagePairs_backs source target found entry member
      exact ⟨leaving.mono here, entering.mono there⟩
    obtain ⟨after, copied, copies⟩ := copyGlobals_run run.targetOrdered backs
    exact ⟨all, after, (Action.bind_of_ok ran).trans (Action.bind_of_ok copied), copies⟩
  · left
    exact ⟨part, requested, available, Action.bind_of_error failed⟩

/-- When all memory has moved, what is left to see is where the data went. -/
theorem Moved.shifted (run : Moved pair moved middle) (source : pair.source.Sound)
    (target : pair.target.Sound)
    (keys : moved.map Prod.fst = pair.source.heap.nonGlobal.map Allocation.address)
    {storage : List (Allocation × Allocation)} (copied : Copied middle storage after) :
    Shifted pair moved after := by
  have mem : ∀ address, address ∈ moved.map Prod.fst ↔
      ∃ content, pair.source.heap.data? address = some content := fun address => by
    rw [keys, mem_map_nonGlobal source.ordered]
  obtain ⟨sound, sound'⟩ := run.sound source target fun address => (mem address).mp
  refine ⟨sound.of_eq copied.sourceModules copied.sourceHeap,
    sound'.of_heap copied.targetModules copied.ordered copied.keeps,
    copied.sourceModules.trans run.sourceModules, copied.targetModules.trans run.targetModules,
    mem, ?_, fun address => ?_, fun entry member => ?_, fun address absent => ?_,
    fun address member => ?_, run.distinct⟩
  · rw [keys]
    exact source.ordered.nonGlobal_nodup
  · rw [copied.sourceHeap]
    by_cases among : address ∈ moved.map Prod.fst
    · rw [Heap.data?, run.left, if_pos among]
      rfl
    · rw [Heap.data?, run.left, if_neg among]
      rw [mem address, not_exists] at among
      exact Option.eq_none_iff_forall_ne_some.mpr among
  · rw [copied.data, Heap.data?, run.arrived entry member]
    rfl
  · rw [copied.data, Heap.data?, run.stayed address absent]
    rfl
  · rw [Heap.data?, target.ordered.content?_of_next_le (run.fresh address member)]
    rfl

/-- **A migration** refuses before anything moves, stops where the target refuses an allocation, or
moves all memory. -/
theorem migrate_run (source : pair.source.Sound) (target : pair.target.Sound)
    (modules : List KernelModule) :
    (∃ error, storagePairs pair modules = .error error ∧
      migrate modules pair = .error error pair) ∨
    ∃ storage, storagePairs pair modules = .ok storage ∧
      ((listed pair ≠ pair.source.heap.nonGlobal ∧ ∃ moved after requested available,
        migrate modules pair = .error (.device (.outOfMemory requested available)) after ∧
        Moved pair moved after ∧ after.source.Sound ∧ after.target.Sound ∧
        moved.map Prod.fst = (listed pair).map Allocation.address) ∨
      (listed pair = pair.source.heap.nonGlobal ∧ ∃ moved after,
        migrate modules pair = .ok moved after ∧ Shifted pair moved after)) := by
  cases found : storagePairs pair modules with
  | error error => exact .inl ⟨error, rfl, migrate_of_error found⟩
  | ok storage =>
    refine .inr ⟨storage, rfl, ?_⟩
    obtain ⟨moved, middle, run, keys, outcome⟩ :=
      migrate_outcome source.orderly target.orderly found
    rcases outcome with ⟨part, requested, available, failed⟩ | ⟨all, after, done, copied⟩
    · obtain ⟨sound, sound'⟩ := run.sound source target (moved_data source.ordered keys)
      exact .inl ⟨part, moved, middle, requested, available, failed, run, sound, sound', keys⟩
    · rw [all] at keys
      exact .inr ⟨all, moved, after, done, run.shifted source target keys copied⟩

/-! ### Copies that are not needed -/

theorem freeEach_run {device : SimulatedDevice} (selected : device.selected = true)
    (ordered : device.heap.Ordered) (addresses : List Address) :
    ∃ heap, Host.freeEach addresses device = .ok () { device with heap } ∧ heap.Ordered ∧
      ∀ address, heap.content? address =
        if address ∈ addresses then none else device.heap.content? address := by
  induction addresses generalizing device with
  | nil => exact ⟨device.heap, rfl, ordered, fun address => by simp⟩
  | cons first rest ih =>
    obtain ⟨heap, outcome, order, view⟩ := ordered.vacate first
    have run : DeviceDriver.free first device = _ := SimulatedDevice.free_of_selected selected first
    have still : { device with heap }.selected = true := selected
    obtain ⟨final, ran, order, after⟩ := ih still order
    refine ⟨final, ?_, order, fun address => ?_⟩
    · unfold Host.freeEach
      rcases outcome with freed | ⟨cause, failed⟩
      · rw [freed] at run
        rw [run]
        exact ran
      · rw [failed] at run
        rw [run]
        exact ran
    · rw [after address, view address]
      by_cases here : address = first
      · simp [here]
      · simp [here]

/-- Copies are given back; what is not there is passed over. -/
theorem selected_freeEach {device : SimulatedDevice} (sound : device.Sound)
    {addresses : List Address}
    (data : ∀ address ∈ addresses, ∀ bytes,
      device.heap.content? address ≠ some ⟨.global, bytes⟩) :
    ∃ after, DeviceDriver.selected (Host.freeEach addresses) device = .ok () after ∧
      after.Sound ∧ after.modules = device.modules ∧
      ∀ address, after.heap.content? address =
        if address ∈ addresses then none else device.heap.content? address := by
  obtain ⟨heap, ran, ordered, view⟩ :=
    freeEach_run device.selected_select sound.ordered addresses
  refine ⟨{ device.visited with heap }, DeviceDriver.selected_of_ok ran,
    sound.of_heap rfl ordered fun address bytes live => ⟨bytes, ?_, rfl⟩, rfl, view⟩
  have kept : address ∉ addresses := fun member => data address member bytes live
  exact (view address).trans ((if_neg kept).trans live)

end Migration

end ComputeHost
