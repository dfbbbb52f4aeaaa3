/-
**The addresses that a device takes.**

A heap lays out one block after the other and never goes back: a freed block leaves the address of
the next one where it is. So the addresses of a device are those of all blocks that it ever made,
laid out from the start of its window (`Heap.laid`), and how far it has come is what they span
(`Heap.spent`), however little of it is live.

* `Request.grows_or_shrinks` — whatever is asked of a device adds blocks at the end, or adds none.
* `Request.perform_heap` — what a request adds is laid out from where the next address was.
* `Request.mem_extents_of_gives` — every address that a device names is that of a live block.
* `Reached.ordered` — the heap of every device is in order, whatever was asked of it.
-/

import ComputeHost.Proofs.Device.Operation
import ComputeHost.Proofs.Lookup

namespace ComputeHost

namespace Heap

variable {heap middle after : Heap} {address : Address} {size : Nat} {sizes more : List Nat}

/-- Blocks of a heap in order lie below its next address. -/
theorem Ordered.extent_lt (ordered : heap.Ordered) {extent : Address × Nat}
    (member : extent ∈ heap.extents) : extent.1.value < heap.next := by
  obtain ⟨entry, among, rfl⟩ := List.mem_map.mp member
  exact ordered.below entry.1 (List.mem_map_of_mem among)

/-! ### How a heap changes -/

/-- Blocks of these sizes were added, and those that there were stay. -/
structure Grown (heap : Heap) (sizes : List Nat) (after : Heap) : Prop where
  next : after.next = heap.next + spent sizes
  extents : after.extents = heap.extents ++ laid heap.next sizes
  kept : ∀ address : Address, address.value < heap.next →
    after.info? address = heap.info? address

/-- No blocks were added. -/
structure Shrunk (heap after : Heap) : Prop where
  next : after.next = heap.next
  extents : after.extents.Sublist heap.extents
  left : ∀ address, after.info? address = heap.info? address ∨ after.info? address = none

/-- Where blocks were, there are the same or none. -/
structure Descends (heap after : Heap) : Prop where
  next_le : heap.next ≤ after.next
  old : ∀ address : Address, address.value < heap.next →
    after.info? address = heap.info? address ∨ after.info? address = none

theorem Grown.refl (heap : Heap) : heap.Grown [] heap :=
  ⟨rfl, (List.append_nil _).symm, fun _ _ => rfl⟩

theorem Grown.descends (grown : heap.Grown sizes after) : heap.Descends after :=
  ⟨grown.next ▸ Nat.le_add_right _ _, fun address below => .inl (grown.kept address below)⟩

theorem Grown.trans (first : heap.Grown sizes middle) (second : middle.Grown more after) :
    heap.Grown (sizes ++ more) after := by
  refine ⟨?_, ?_, fun address below => ?_⟩
  · rw [second.next, first.next, spent_append, Nat.add_assoc]
  · rw [second.extents, first.extents, first.next, laid_append, List.append_assoc]
  · rw [second.kept address (Nat.lt_of_lt_of_le below first.descends.next_le),
      first.kept address below]

theorem Shrunk.refl (heap : Heap) : heap.Shrunk heap := ⟨rfl, .refl _, fun _ => .inl rfl⟩

theorem Shrunk.descends (shrunk : heap.Shrunk after) : heap.Descends after :=
  ⟨Nat.le_of_eq shrunk.next.symm, fun address _ => shrunk.left address⟩

theorem Shrunk.trans (first : heap.Shrunk middle) (second : middle.Shrunk after) :
    heap.Shrunk after := by
  refine ⟨second.next.trans first.next, second.extents.trans first.extents, fun address => ?_⟩
  rcases second.left address with same | gone
  · rw [same]
    exact first.left address
  · exact .inr gone

theorem grown_allocate {residency : Residency}
    (done : allocate size residency heap = .ok address after) : heap.Grown [size] after := by
  have extents := extents_allocate done
  have found := find?_allocate done
  obtain ⟨_, rfl, rfl⟩ := allocate_inv done
  refine ⟨by simp [spent], extents, fun place below => ?_⟩
  have old : place ≠ ⟨heap.next⟩ := fun same => Nat.lt_irrefl _ (same ▸ below)
  unfold info?
  rw [found, if_neg old, Option.or_none]

/-- Writing changes the bytes of a block only. -/
theorem Ordered.grown_write {offset : Nat} {data : Block} (ordered : heap.Ordered)
    (done : Heap.write address offset data heap = .ok () after) : heap.Grown [] after := by
  refine ⟨(write_frame done).1, (ordered.extents_write done).trans (List.append_nil _).symm,
    fun place _ => ?_⟩
  obtain ⟨cell, block, there, written, found⟩ := find?_write done
  unfold info?
  rw [found]
  split
  · rename_i here
    rw [here, there, Option.map_some, Option.map_some, describe, describe, Block.size_write written]
  · rfl

theorem shrunk_free (done : free address heap = .ok () after) : heap.Shrunk after := by
  obtain ⟨next, part⟩ := free_frame done
  refine ⟨next, part.map _, fun place => ?_⟩
  unfold info?
  rw [find?_free done]
  split
  · exact .inr rfl
  · exact .inl rfl

end Heap

namespace SimulatedDevice

open ComputeHost.Action

variable {device after : SimulatedDevice} {address : Address}

/-! ### What operations do to the heap -/

/-- Operations that add blocks only. -/
def Grows (device after : SimulatedDevice) : Prop :=
  device.heap.Ordered → after.heap.Ordered ∧ ∃ sizes, device.heap.Grown sizes after.heap

/-- Operations that add no blocks. -/
def Shrinks (device after : SimulatedDevice) : Prop :=
  device.heap.Ordered → after.heap.Ordered ∧ device.heap.Shrunk after.heap

theorem grows_of_heap (same : after.heap = device.heap) : device.Grows after := by
  intro ordered
  rw [same]
  exact ⟨ordered, [], .refl device.heap⟩

theorem shrinks_of_heap (same : after.heap = device.heap) : device.Shrinks after := by
  intro ordered
  rw [same]
  exact ⟨ordered, .refl device.heap⟩

theorem grows_compositional : Compositional Grows where
  refl _ := grows_of_heap rfl
  trans first second ordered :=
    let ⟨still, sizes, grown⟩ := first ordered
    let ⟨kept, more, further⟩ := second still
    ⟨kept, sizes ++ more, grown.trans further⟩
  refused _ _ := grows_of_heap rfl

theorem shrinks_compositional : Compositional Shrinks where
  refl _ := shrinks_of_heap rfl
  trans first second ordered :=
    let ⟨still, shrunk⟩ := first ordered
    let ⟨kept, further⟩ := second still
    ⟨kept, shrunk.trans further⟩
  refused _ _ := shrinks_of_heap rfl

theorem grows_allocateAs (residency : Residency) (size : Nat) :
    Within Grows (allocateAs residency size) :=
  grows_compositional.allocateAs fun _ _ _ done ordered =>
    ⟨ordered.allocate done, [size], Heap.grown_allocate done⟩

theorem grows_write (address : Address) (offset : Nat) (data : Block) :
    Within Grows (write address offset data) := by
  exact grows_compositional.write fun device heap done ordered =>
    ⟨ordered.write done, [], ordered.grown_write done⟩

theorem grows_loadModule (module : KernelModule) : Within Grows (loadModule module) := by
  have places := grows_compositional.placeGlobals (grows_allocateAs .global)
    (fun address data => grows_write address 0 data) module.globals
  exact grows_compositional.loadModule places fun _ _ => grows_of_heap rfl

theorem shrinks_free (address : Address) : Within Shrinks (free address) :=
  shrinks_compositional.free fun _ _ done ordered => ⟨ordered.free done, Heap.shrunk_free done⟩

theorem shrinks_unloadModule (name : String) : Within Shrinks (unloadModule name) :=
  shrinks_compositional.unloadModule shrinks_free (fun _ => shrinks_of_heap rfl)
    fun _ => shrinks_of_heap rfl

/-- Memory that a device gives comes from its heap. -/
theorem allocateAs_ok {residency : Residency} {size : Nat}
    (made : allocateAs residency size device = .ok address after) :
    Heap.allocate size residency device.heap = .ok address after.heap := by
  cases bound : device.selected with
  | false =>
    unfold allocateAs at made
    rw [bind_of_error (ensureSelected_of_unselected bound)] at made
    cases made
  | true =>
    rw [allocateAs_of_selected bound] at made
    cases reserved : device.reserve residency size with
    | error cause heap =>
      rw [reserved] at made
      cases made
    | ok fresh heap =>
      rw [reserved] at made
      cases made
      exact reserve_ok reserved

/-! ### Requests -/

/-- What can be asked of a device. -/
inductive Request
  | select
  | unselect
  | loadModule (module : KernelModule)
  | unloadModule (name : String)
  | setOptimization (level : OptimizationLevel)
  | allocate (size : Nat)
  | allocateHost (size : Nat) (flags : HostAllocFlags)
  | free (address : Address)
  | write (address : Address) (offset : Nat) (data : Block)
  | read (address : Address) (offset length : Nat)
  | hostView (address : Address)
  | allocations
  | globalAllocation (module symbol : String)
  | createStream
  | launch (request : LaunchRequest)
  | turn (switch : Switch)
  | release

namespace Request

/-- The device after a request, whether or not it was granted. -/
def perform (device : SimulatedDevice) : Request → SimulatedDevice
  | select => DeviceDriver.select device
  | unselect => DeviceDriver.unselect device
  | loadModule module => final (DeviceDriver.loadModule module device)
  | unloadModule name => final (DeviceDriver.unloadModule name device)
  | setOptimization level => DeviceDriver.setOptimization level device
  | allocate size => final (DeviceDriver.allocate size device)
  | allocateHost size flags => final (DeviceDriver.allocateHost size flags device)
  | free address => final (DeviceDriver.free address device)
  | write address offset data => final (DeviceDriver.write address offset data device)
  | read address offset length => final (DeviceDriver.read address offset length device)
  | hostView address => (DeviceDriver.hostView address device).2
  | allocations => device
  | globalAllocation _ _ => device
  | createStream => final (DeviceDriver.createStream device)
  | launch request => (DeviceDriver.launch request device).2
  | turn switch => device.turn switch
  | release => DeviceDriver.release device

/-- The addresses that an allocation gives. -/
def granted : EStateM.Result DeviceError SimulatedDevice Address → List Address
  | .ok address _ => [address]
  | .error _ _ => []

/-- The addresses that a device names in its answer. -/
def gives (device : SimulatedDevice) : Request → List Address
  | allocate size => granted (DeviceDriver.allocate size device)
  | allocateHost size flags => granted (DeviceDriver.allocateHost size flags device)
  | allocations => (DeviceDriver.allocations device).map Allocation.address
  | globalAllocation module symbol =>
    (DeviceDriver.globalAllocation? module symbol device).toList.map Allocation.address
  | _ => []

/-- The sizes of the blocks that a request adds, in the order of their addresses: those that lie
where no block was before. -/
def takes (device : SimulatedDevice) (request : Request) : List Nat :=
  ((request.perform device).heap.extents.filter fun extent =>
    device.heap.next ≤ extent.1.value).map Prod.snd

/-- **Whatever is asked of a device adds blocks at the end, or adds none.** -/
theorem grows_or_shrinks (device : SimulatedDevice) (request : Request) :
    device.Grows (request.perform device) ∨ device.Shrinks (request.perform device) := by
  cases request with
  | loadModule module => exact .inl (grows_loadModule module device)
  | allocate size => exact .inl (grows_allocateAs .deviceOnly size device)
  | allocateHost size flags => exact .inl (grows_allocateAs (.hostVisible flags) size device)
  | write address offset data => exact .inl (grows_write address offset data device)
  | unloadModule name => exact .inr (shrinks_unloadModule name device)
  | free address => exact .inr (shrinks_free address device)
  | read address offset length =>
    exact .inr (shrinks_compositional.read address offset length device)
  | createStream =>
    exact .inr (shrinks_compositional.createStream (fun _ => shrinks_of_heap rfl) device)
  | launch request =>
    exact .inr (shrinks_compositional.launch (fun _ => shrinks_of_heap rfl)
      (fun _ _ => shrinks_of_heap rfl) request device)
  | release =>
    -- the blocks go and the next address stays
    exact .inr fun ordered => ⟨.of_nil rfl rfl, rfl, List.nil_sublist _, fun _ => .inr rfl⟩
  | select => exact .inr (shrinks_of_heap rfl)
  | unselect => exact .inr (shrinks_of_heap rfl)
  | setOptimization level => exact .inr (shrinks_of_heap rfl)
  | hostView address => exact .inr (shrinks_of_heap rfl)
  | allocations => exact .inr (shrinks_of_heap rfl)
  | globalAllocation module symbol => exact .inr (shrinks_of_heap rfl)
  | turn switch => exact .inr (shrinks_of_heap rfl)

/-- No request puts anything where something was before. -/
theorem perform_descends (ordered : device.heap.Ordered) (request : Request) :
    device.heap.Descends (request.perform device).heap := by
  rcases grows_or_shrinks device request with grows | shrinks
  · obtain ⟨_, sizes, grown⟩ := grows ordered
    exact grown.descends
  · exact (shrinks ordered).2.descends

theorem mem_granted {result : EStateM.Result DeviceError SimulatedDevice Address} :
    address ∈ granted result ↔ ∃ after, result = .ok address after := by
  constructor
  · intro given
    cases result with
    | ok fresh after =>
      rw [List.mem_singleton.mp given]
      exact ⟨after, rfl⟩
    | error cause after => exact absurd given List.not_mem_nil
  · rintro ⟨_, rfl⟩
    exact List.mem_singleton_self address

theorem mem_extents_of_granted {residency : Residency} {size : Nat}
    (given : address ∈ granted (allocateAs residency size device)) :
    (address, size) ∈ (final (allocateAs residency size device)).heap.extents := by
  obtain ⟨after, made⟩ := mem_granted.mp given
  have done := allocateAs_ok made
  have fresh := (Heap.allocate_inv done).2.1
  rw [made]
  show (address, size) ∈ after.heap.extents
  rw [(Heap.grown_allocate done).extents, fresh]
  exact List.mem_append_right _ (List.mem_singleton_self _)

/-- Every address that a device names is that of a live block. -/
theorem mem_extents_of_gives {request : Request} (given : address ∈ request.gives device) :
    ∃ size, (address, size) ∈ (request.perform device).heap.extents := by
  have live : ∀ {cell : Cell}, (address, cell) ∈ device.heap.cells →
      ∃ size, (address, size) ∈ device.heap.extents :=
    fun {cell} member => ⟨cell.block.size, List.mem_map.mpr ⟨(address, cell), member, rfl⟩⟩
  cases request with
  | allocate size => exact ⟨size, mem_extents_of_granted given⟩
  | allocateHost size flags => exact ⟨size, mem_extents_of_granted given⟩
  | allocations =>
    obtain ⟨allocation, listed, rfl⟩ := List.mem_map.mp given
    obtain ⟨⟨place, cell⟩, member, rfl⟩ := List.mem_map.mp (List.mem_filter.mp listed).1
    exact live member
  | globalAllocation module symbol =>
    obtain ⟨allocation, found, rfl⟩ := List.mem_map.mp given
    obtain ⟨loaded, _, found⟩ := Option.bind_eq_some_iff.mp (Option.mem_toList.mp found)
    obtain ⟨place, _, described⟩ := Option.bind_eq_some_iff.mp found
    obtain ⟨cell, there, rfl⟩ := Option.map_eq_some_iff.mp described
    exact live (mem_of_lookup there)
  | _ => cases given

/-- Of what lies in a heap that has grown, the new blocks are those from the next address on. -/
theorem grown_takes {request : Request} {sizes : List Nat} (ordered : device.heap.Ordered)
    (grown : device.heap.Grown sizes (request.perform device).heap) :
    request.takes device = sizes := by
  have old : device.heap.extents.filter (fun extent => device.heap.next ≤ extent.1.value) = [] :=
    List.filter_eq_nil_iff.mpr fun extent member => by
      simpa using ordered.extent_lt member
  have new : (Heap.laid device.heap.next sizes).filter
      (fun extent => device.heap.next ≤ extent.1.value) = Heap.laid device.heap.next sizes :=
    List.filter_eq_self.mpr fun (address, size) member => by
      simpa using (Heap.laid_bounds member).1
  unfold takes
  rw [grown.extents, List.filter_append, old, new, List.nil_append, Heap.map_snd_laid]

theorem shrunk_takes {request : Request} (ordered : device.heap.Ordered)
    (shrunk : device.heap.Shrunk (request.perform device).heap) : request.takes device = [] := by
  unfold takes
  rw [List.map_eq_nil_iff, List.filter_eq_nil_iff]
  intro extent member
  simpa using ordered.extent_lt (shrunk.extents.subset member)

/-- A request moves the next address by the blocks that it adds, and lays these out from where the
next address was. -/
theorem perform_heap (ordered : device.heap.Ordered) (request : Request) :
    (request.perform device).heap.Ordered ∧
      (request.perform device).heap.next =
        device.heap.next + Heap.spent (request.takes device) ∧
      ∀ extent ∈ (request.perform device).heap.extents,
        extent ∈ device.heap.extents ∨
          extent ∈ Heap.laid device.heap.next (request.takes device) := by
  rcases grows_or_shrinks device request with grows | shrinks
  · obtain ⟨still, sizes, grown⟩ := grows ordered
    rw [grown_takes ordered grown]
    refine ⟨still, grown.next, fun extent member => ?_⟩
    rw [grown.extents] at member
    exact List.mem_append.mp member
  · obtain ⟨still, shrunk⟩ := shrinks ordered
    rw [shrunk_takes ordered shrunk]
    exact ⟨still, shrunk.next, fun extent member => .inl (shrunk.extents.subset member)⟩

end Request

/-! ### Devices in use -/

/-- A device that was made, and then asked for one thing after the other. -/
inductive Reached : SimulatedDevice → Prop
  | new (number : Nat) (properties : DeviceProperties) : Reached (new number properties)
  | asked {device : SimulatedDevice} (reached : Reached device) (request : Request) :
      Reached (request.perform device)

/-- One request after the other. -/
theorem Reached.foldl (reached : Reached device) (requests : List Request) :
    Reached (requests.foldl Request.perform device) := by
  induction requests generalizing device with
  | nil => exact reached
  | cons request rest ih => exact ih (reached.asked request)

theorem Reached.ordered (reached : Reached device) : device.heap.Ordered := by
  induction reached with
  | new number properties => exact Heap.Ordered.start _ _
  | asked _ request ordered => exact (Request.perform_heap ordered request).1

end SimulatedDevice

end ComputeHost
