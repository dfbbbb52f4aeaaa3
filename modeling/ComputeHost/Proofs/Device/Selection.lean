/-
**Operations on a selected device.**

Every operation that a host asks for is bracketed by selecting and unselecting. All it leaves of the
bracket is one visit in the probe (`SimulatedDevice.visited`); what the operation itself does is an
operation on the heap, settled on the device (`SimulatedDevice.settle`).

* `selected_allocate`, `selected_allocateHost`, `selected_free`, `selected_write`, `selected_read` —
  one operation of a host.
* `selected_allocateBuffer` — an allocation with its first contents is made as a whole or not at
  all.
-/

import ComputeHost.Device.Simulated
import ComputeHost.Host.Buffer
import ComputeHost.Proofs.Action
import ComputeHost.Proofs.Device.Memory

namespace ComputeHost

namespace DeviceDriver

variable {δ α : Type} [DeviceDriver δ] {action : DeviceAction δ α} {device after : δ} {value : α}
  {cause : DeviceError}

theorem selected_of_ok (done : action (select device) = .ok value after) :
    selected action device = .ok value (unselect after) := by
  unfold selected
  rw [done]

theorem selected_of_error (failed : action (select device) = .error cause after) :
    selected action device = .error cause (unselect after) := by
  unfold selected
  rw [failed]

end DeviceDriver

namespace SimulatedDevice

variable {device : SimulatedDevice} {α : Type} {address : Address} {size : Nat}
  {residency : Residency}

/-- The device after it was selected and unselected. -/
def visited (device : SimulatedDevice) : SimulatedDevice := device.select.unselect

/-- The outcome of an operation on the heap as an outcome of the device. -/
def settle (device : SimulatedDevice) :
    EStateM.Result DeviceError Heap α → EStateM.Result DeviceError SimulatedDevice α
  | .ok value heap => .ok value { device with heap }
  | .error cause heap => .error cause { device with heap }

/-- Allocating, unless allocations are switched to fail. -/
def reserve (device : SimulatedDevice) (residency : Residency) (size : Nat) :
    EStateM.Result DeviceError Heap Address :=
  if device.switches.failAllocations then .error (.outOfMemory size 0) device.heap
  else Heap.allocate size residency device.heap

theorem reserve_ok {heap : Heap} (done : device.reserve residency size = .ok address heap) :
    Heap.allocate size residency device.heap = .ok address heap := by
  unfold reserve at done
  split at done
  · cases done
  · exact done

/-- A device refuses memory only if it has too little left, or says so. -/
theorem reserve_eq_error {cause : DeviceError} {heap : Heap}
    (refused : device.reserve residency size = .error cause heap) :
    heap = device.heap ∧ ∃ requested available, cause = .outOfMemory requested available := by
  unfold reserve at refused
  split at refused
  · cases refused
    exact ⟨rfl, _, _, rfl⟩
  · obtain ⟨_, same, kept⟩ := Heap.allocate_eq_error_iff.mp refused
    exact ⟨kept, _, _, same⟩

/-! ### While the device is selected -/

theorem selected_select (device : SimulatedDevice) : device.select.selected = true := rfl

theorem ensureSelected_of_selected (selected : device.selected = true) :
    ensureSelected device = .ok () device := by
  unfold ensureSelected
  rw [if_pos selected]

/-- An unselected device refuses, and counts that it was asked. -/
theorem ensureSelected_of_unselected (unselected : device.selected = false) :
    ensureSelected device = .error (.notSelected device.properties.name)
      (device.note fun probe =>
        { probe with unselectedAccesses := probe.unselectedAccesses + 1 }) := by
  unfold ensureSelected
  rw [if_neg (by simp [unselected])]

theorem onHeap_of_selected (selected : device.selected = true) (action : HeapAction α) :
    (do ensureSelected; onHeap action : DeviceAction SimulatedDevice α) device =
      device.settle (action device.heap) := by
  show EStateM.bind ensureSelected (fun _ => onHeap action) device = _
  unfold EStateM.bind ensureSelected onHeap
  rw [if_pos selected]
  simp only
  cases action device.heap <;> rfl

theorem allocateAs_of_selected (selected : device.selected = true) (residency : Residency)
    (size : Nat) :
    allocateAs residency size device = device.settle (device.reserve residency size) := by
  have got : (get : DeviceAction SimulatedDevice SimulatedDevice) device = .ok device device := rfl
  unfold allocateAs reserve
  rw [Action.bind_of_ok (ensureSelected_of_selected selected), Action.bind_of_ok got]
  cases device.switches.failAllocations with
  | true => rfl
  | false =>
    have action := onHeap_of_selected selected (Heap.allocate size residency)
    rw [Action.bind_of_ok (ensureSelected_of_selected selected)] at action
    exact action

theorem free_of_selected (selected : device.selected = true) (address : Address) :
    free address device = device.settle (Heap.free address device.heap) :=
  onHeap_of_selected selected _

theorem write_of_selected (selected : device.selected = true) (address : Address) (offset : Nat)
    (data : Block) :
    write address offset data device =
      device.settle (Heap.write address offset data device.heap) :=
  onHeap_of_selected selected _

theorem read_of_selected (selected : device.selected = true) (address : Address)
    (offset length : Nat) :
    read address offset length device =
      device.settle (Heap.read address offset length device.heap) :=
  onHeap_of_selected selected _

/-- A new stream has the next number, unless streams are switched to fail. -/
theorem createStream_of_selected (selected : device.selected = true) :
    createStream device =
      if device.switches.failStreams = true then
        .error (.streamCreation ("stream limit reached on '" ++ device.properties.name ++ "'"))
          device
      else
        .ok ⟨device.probe.streams + 1⟩
          (device.note fun probe => { probe with streams := probe.streams + 1 }) := by
  have got : (get : DeviceAction SimulatedDevice SimulatedDevice) device = .ok device device := rfl
  unfold createStream
  rw [Action.bind_of_ok (ensureSelected_of_selected selected), Action.bind_of_ok got]
  simp only
  split <;> rfl

/-! ### One operation between selecting and unselecting -/

/-- An operation on the heap leaves a visit besides what it does to the heap. -/
theorem selected_settle {action : DeviceAction SimulatedDevice α}
    {outcome : EStateM.Result DeviceError Heap α}
    (acts : action device.select = device.select.settle outcome) :
    DeviceDriver.selected action device = device.visited.settle outcome := by
  cases outcome with
  | error cause heap => exact DeviceDriver.selected_of_error acts
  | ok value heap => exact DeviceDriver.selected_of_ok acts

theorem selected_allocate (size : Nat) (device : SimulatedDevice) :
    DeviceDriver.selected (DeviceDriver.allocate size) device =
      device.visited.settle (device.reserve .deviceOnly size) :=
  selected_settle (allocateAs_of_selected rfl _ _)

theorem selected_allocateHost (size : Nat) (flags : HostAllocFlags) (device : SimulatedDevice) :
    DeviceDriver.selected (DeviceDriver.allocateHost size flags) device =
      device.visited.settle (device.reserve (.hostVisible flags) size) :=
  selected_settle (allocateAs_of_selected rfl _ _)

theorem selected_free (address : Address) (device : SimulatedDevice) :
    DeviceDriver.selected (DeviceDriver.free address) device =
      device.visited.settle (Heap.free address device.heap) :=
  selected_settle (free_of_selected rfl _)

theorem selected_write (address : Address) (offset : Nat) (data : Block)
    (device : SimulatedDevice) :
    DeviceDriver.selected (DeviceDriver.write address offset data) device =
      device.visited.settle (Heap.write address offset data device.heap) :=
  selected_settle (write_of_selected rfl _ _ _)

theorem selected_read (address : Address) (offset length : Nat) (device : SimulatedDevice) :
    DeviceDriver.selected (DeviceDriver.read address offset length) device =
      device.visited.settle (Heap.read address offset length device.heap) :=
  selected_settle (read_of_selected rfl _ _ _)

/-! ### A buffer on one device -/

/-- Who can see the memory of a buffer. -/
def bufferResidency (hostVisible : Bool) : Residency :=
  if hostVisible then .hostVisible .mapped else .deviceOnly

theorem bufferResidency_ne_global (hostVisible : Bool) :
    bufferResidency hostVisible ≠ .global := by
  cases hostVisible <;> decide

theorem allocateBuffer_of_error {hostVisible : Bool} {initial : Option Bytes}
    {cause : DeviceError} {after : SimulatedDevice}
    (failed : allocateAs (bufferResidency hostVisible) size device = .error cause after) :
    (allocateBuffer size hostVisible initial : DeviceAction SimulatedDevice Address) device =
      .error cause after := by
  unfold allocateBuffer
  cases hostVisible with
  | true => exact Action.bind_of_error failed
  | false => exact Action.bind_of_error failed

theorem allocateBuffer_none {hostVisible : Bool} {after : SimulatedDevice}
    (made : allocateAs (bufferResidency hostVisible) size device = .ok address after) :
    (allocateBuffer size hostVisible none : DeviceAction SimulatedDevice Address) device =
      .ok address after := by
  unfold allocateBuffer
  cases hostVisible with
  | true => exact Action.bind_of_ok made
  | false => exact Action.bind_of_ok made

theorem allocateBuffer_some {hostVisible : Bool} {data : Bytes} {middle after : SimulatedDevice}
    (made : allocateAs (bufferResidency hostVisible) size device = .ok address middle)
    (wrote : write address 0 (.ofBytes data) middle = .ok () after) :
    (allocateBuffer size hostVisible (some data) : DeviceAction SimulatedDevice Address) device =
      .ok address after := by
  have filled : DeviceDriver.write address 0 (.ofBytes data) middle = .ok () after := wrote
  unfold allocateBuffer
  cases hostVisible with
  | true =>
    refine (Action.bind_of_ok made).trans ?_
    simp only [filled]
  | false =>
    refine (Action.bind_of_ok made).trans ?_
    simp only [filled]

/-- Allocating a buffer either fails, and leaves a visit only, or gives a fresh address that holds
the first contents of the buffer, and leaves all else as it was. -/
theorem selected_allocateBuffer (ordered : device.heap.Ordered) (hostVisible : Bool)
    (initial : Option Bytes) (whole : ∀ data ∈ initial, data.length = size) :
    (∃ cause, device.reserve (bufferResidency hostVisible) size = .error cause device.heap ∧
      DeviceDriver.selected (allocateBuffer size hostVisible initial) device =
        .error cause device.visited) ∨
    ∃ address heap,
      DeviceDriver.selected (allocateBuffer size hostVisible initial) device =
        .ok address { device.visited with heap } ∧
      heap.Ordered ∧ device.heap.next ≤ address.value ∧ address.value < heap.next ∧
      ∀ place, heap.content? place =
        if place = address then
          some ⟨bufferResidency hostVisible, initial.getD (Bytes.zeros size)⟩
        else device.heap.content? place := by
  cases reserved : device.reserve (bufferResidency hostVisible) size with
  | error cause heap =>
    left
    obtain ⟨rfl, _⟩ := reserve_eq_error reserved
    have failed : allocateAs (bufferResidency hostVisible) size device.select =
        .error cause device.select := by
      rw [allocateAs_of_selected rfl]
      exact congrArg device.select.settle reserved
    have acts : allocateBuffer size hostVisible initial device.select =
        device.select.settle (.error cause device.heap) := allocateBuffer_of_error failed
    exact ⟨cause, rfl, selected_settle acts⟩
  | ok address heap =>
    right
    have done := reserve_ok reserved
    have ordered' := ordered.allocate done
    have live : heap.content? address =
        some ⟨bufferResidency hostVisible, Bytes.zeros size⟩ := by
      rw [ordered.content?_allocate done, if_pos rfl]
    have started := Heap.next_le_fresh done
    have allocated : allocateAs (bufferResidency hostVisible) size device.select =
        .ok address { device.select with heap } := by
      rw [allocateAs_of_selected rfl]
      exact congrArg device.select.settle reserved
    cases initial with
    | none =>
      refine ⟨address, heap, ?_, ordered', started, ordered'.lt_next live,
        ordered.content?_allocate done⟩
      have acts : allocateBuffer size hostVisible none device.select =
          device.select.settle (.ok address heap) := allocateBuffer_none allocated
      exact selected_settle acts
    | some data =>
      -- the first contents are as long as the block, so they can be written
      have length : (Block.ofBytes data).size = size := by simpa using whole data rfl
      obtain ⟨filled, wrote, ordered, next, _, view⟩ := ordered.fill done length
      have written : write address 0 (.ofBytes data) { device.select with heap } =
          .ok () { device.select with heap := filled } := by
        rw [write_of_selected rfl, show Heap.write address 0 (.ofBytes data) heap = _ from wrote]
        rfl
      refine ⟨address, filled, ?_, ordered, started, ?_, fun place => ?_⟩
      · have acts : allocateBuffer size hostVisible (some data) device.select =
            device.select.settle (.ok address filled) := allocateBuffer_some allocated written
        exact selected_settle acts
      · rw [next]
        exact ordered'.lt_next live
      · rw [view place, Block.bytes_ofBytes]
        rfl

/-! ### Giving memory back -/

/-- Freeing between selecting and unselecting, whether or not anything is there. -/
theorem selected_free_view (ordered : device.heap.Ordered) (address : Address) :
    ∃ heap, (DeviceDriver.selected (DeviceDriver.free address) device =
          .ok () { device.visited with heap } ∨
        ∃ cause, DeviceDriver.selected (DeviceDriver.free address) device =
          .error cause { device.visited with heap }) ∧
      heap.Ordered ∧
      ∀ place, heap.content? place =
        if place = address then none else device.heap.content? place := by
  obtain ⟨heap, outcome, order, view⟩ := ordered.vacate address
  have run := selected_free address device
  refine ⟨heap, ?_, order, view⟩
  rcases outcome with freed | ⟨cause, failed⟩
  · rw [freed] at run
    exact .inl run
  · rw [failed] at run
    exact .inr ⟨cause, run⟩

end SimulatedDevice

end ComputeHost
