/-
**The memory of a device.**

A heap hands out blocks at ascending addresses, each a multiple of 256 from where the heap starts.
A freed address is not used again; freed bytes count towards the capacity again.

* `HeapAction` — an operation, which gives a heap also where it fails.
* `find?_allocate`, `find?_free`, `find?_write` — what each operation does to the cell at any
  address.
* `free_eq_ok_iff`, `write_eq_ok_iff` — the heap after an operation that succeeds.
* `allocate_eq_error_iff`, `free_eq_error`, `write_eq_error`, `read_eq_error` — an operation that
  fails leaves the heap as it was; allocating fails exactly when too few bytes are left.
-/

import ComputeHost.Device.Allocation
import ComputeHost.Device.Block
import ComputeHost.Device.Error

namespace ComputeHost

/-- A live allocation with its contents. -/
structure Cell where
  residency : Residency
  block : Block

/-- The memory of a device. -/
structure Heap where
  /-- The live allocations, in the order of their addresses, which is the order of allocation. -/
  cells : List (Address × Cell)
  /-- The address of the next allocation. -/
  next : Nat
  /-- How many bytes may be live at once. -/
  capacity : Nat
  /-- How many bytes are live. -/
  used : Nat

/-- An operation on the memory of a device. -/
abbrev HeapAction := EStateM DeviceError Heap

namespace Heap

/-- Addresses are multiples of this many bytes. -/
def granularity : Nat := 256

/-- A heap without allocations. -/
def start (base capacity : Nat) : Heap where
  cells := []
  next := base
  capacity
  used := 0

/-- How far the next address moves for a block of the given size: at least one step. -/
def span (size : Nat) : Nat := (max size 1 + granularity - 1) / granularity * granularity

/-- How many bytes are left. -/
def available (heap : Heap) : Nat := heap.capacity - heap.used

/-- The cell at an address. -/
def find? (heap : Heap) (address : Address) : Option Cell := heap.cells.lookup address

/-- A new block of zeros. A machine that keeps the bytes in its own memory has no block of 2^63
bytes or more, and one that keeps addresses in words has none behind the last word; both limits are
left out here. -/
def allocate (size : Nat) (residency : Residency) : HeapAction Address := fun heap =>
  if heap.available < size then .error (.outOfMemory size heap.available) heap
  else
    .ok ⟨heap.next⟩
      { heap with
        cells := heap.cells ++ [(⟨heap.next⟩, ⟨residency, Block.zeroed size⟩)]
        next := heap.next + span size
        used := heap.used + size }

/-- Gives a block back. -/
def free (address : Address) : HeapAction Unit := fun heap =>
  match heap.find? address with
  | none => .error (.invalidPointer address) heap
  | some cell =>
    .ok ()
      { heap with
        cells := heap.cells.filter fun entry => entry.1 ≠ address
        used := heap.used - cell.block.size }

/-- The cells with the block at `address` replaced. -/
def replaceBlock (cells : List (Address × Cell)) (address : Address) (block : Block) :
    List (Address × Cell) :=
  cells.map fun (place, cell) =>
    if place = address then (place, { cell with block }) else (place, cell)

/-- Writes into the block at an address. -/
def write (address : Address) (offset : Nat) (data : Block) : HeapAction Unit := fun heap =>
  match heap.find? address with
  | none => .error (.invalidPointer address) heap
  | some cell =>
    match cell.block.write? offset data with
    | none => .error (.outOfBounds address offset data.size cell.block.size) heap
    | some block => .ok () { heap with cells := replaceBlock heap.cells address block }

/-- Copies a part of the block at an address into the buffer of a reader. -/
def copyOut (heap : Heap) (address : Address) (offset : Nat) : EStateM DeviceError Block Unit :=
  fun out =>
    match heap.find? address with
    | none => .error (.invalidPointer address) out
    | some cell =>
      match cell.block.read? offset out.size with
      | none => .error (.outOfBounds address offset out.size cell.block.size) out
      | some data => .ok () data

/-- Reads from the block at an address, into a buffer of zeros. -/
def read (address : Address) (offset length : Nat) : HeapAction Block := fun heap =>
  match heap.copyOut address offset (.zeroed length) with
  | .error cause _ => .error cause heap
  | .ok () data => .ok data heap

/-- The contents of host-visible memory; other memory has no view. -/
def hostView (heap : Heap) (address : Address) : Option Block :=
  match heap.find? address with
  | some ⟨.hostVisible _, block⟩ => some block
  | _ => none

/-- A cell without its contents. -/
def describe (address : Address) (cell : Cell) : Allocation :=
  ⟨address, cell.block.size, cell.residency⟩

/-- The allocation at an address. -/
def info? (heap : Heap) (address : Address) : Option Allocation :=
  (heap.find? address).map (describe address)

/-- The live allocations in the order of allocation, storage of globals left out. -/
def nonGlobal (heap : Heap) : List Allocation :=
  (heap.cells.map fun (address, cell) => describe address cell).filter fun allocation =>
    allocation.residency ≠ .global

/-- The heap without its allocations; addresses go on where they were. -/
def clear (heap : Heap) : Heap := { heap with cells := [], used := 0 }

/-! ### The cell at an address after one operation -/

theorem allocate_eq_error_iff {heap after : Heap} {size : Nat} {residency : Residency}
    {cause : DeviceError} :
    allocate size residency heap = .error cause after ↔
      heap.available < size ∧ cause = .outOfMemory size heap.available ∧ after = heap := by
  unfold allocate
  split
  · rename_i few
    simp [few, eq_comm]
  · rename_i enough
    simp [enough]

theorem free_eq_ok_iff {heap after : Heap} {address : Address} :
    free address heap = .ok () after ↔
      ∃ cell, heap.find? address = some cell ∧
        after = { heap with
          cells := heap.cells.filter fun entry => entry.1 ≠ address
          used := heap.used - cell.block.size } := by
  unfold free
  cases heap.find? address with
  | none => simp
  | some cell => simp [eq_comm]

theorem free_eq_error {heap after : Heap} {address : Address} {cause : DeviceError}
    (failed : free address heap = .error cause after) : after = heap := by
  unfold free at failed
  split at failed
  · cases failed
    rfl
  · cases failed

theorem write_eq_ok_iff {heap after : Heap} {address : Address} {offset : Nat} {data : Block} :
    write address offset data heap = .ok () after ↔
      ∃ cell block, heap.find? address = some cell ∧
        cell.block.write? offset data = some block ∧
        after = { heap with cells := replaceBlock heap.cells address block } := by
  unfold write
  cases heap.find? address with
  | none => simp
  | some cell =>
    simp only [Option.some.injEq]
    cases written : cell.block.write? offset data with
    | none => simp [written]
    | some block => simp [written, eq_comm]

theorem write_eq_error {heap after : Heap} {address : Address} {offset : Nat} {data : Block}
    {cause : DeviceError} (failed : write address offset data heap = .error cause after) :
    after = heap := by
  unfold write at failed
  split at failed
  · cases failed
    rfl
  · split at failed
    · cases failed
      rfl
    · cases failed

theorem read_eq_error {heap after : Heap} {address : Address} {offset length : Nat}
    {cause : DeviceError} (failed : read address offset length heap = .error cause after) :
    after = heap := by
  unfold read at failed
  split at failed
  · cases failed
    rfl
  · cases failed

/-- Reading leaves the heap as it is. -/
theorem read_eq_ok {heap after : Heap} {address : Address} {offset length : Nat} {data : Block}
    (done : read address offset length heap = .ok data after) :
    after = heap ∧ heap.copyOut address offset (.zeroed length) = .ok () data := by
  unfold read at done
  split at done
  · cases done
  · rename_i filled
    cases done
    exact ⟨rfl, filled⟩

theorem lookup_cons_eq (place : Address) (cell : Cell) (rest : List (Address × Cell))
    (address : Address) :
    ((place, cell) :: rest).lookup address =
      if address = place then some cell else rest.lookup address := by
  rw [List.lookup_cons]
  by_cases here : address = place
  · simp [here]
  · simp [here, beq_eq_false_iff_ne.mpr here]

theorem find?_allocate {heap after : Heap} {size : Nat} {residency : Residency} {fresh : Address}
    (done : allocate size residency heap = .ok fresh after) (address : Address) :
    after.find? address =
      (heap.find? address).or
        (if address = fresh then some ⟨residency, Block.zeroed size⟩ else none) := by
  unfold allocate at done
  split at done
  · cases done
  · cases done
    simp [find?, List.lookup_append, lookup_cons_eq]

theorem lookup_filter_ne (cells : List (Address × Cell)) (freed address : Address) :
    (cells.filter fun entry => entry.1 ≠ freed).lookup address =
      if address = freed then none else cells.lookup address := by
  induction cells with
  | nil => simp
  | cons entry rest ih =>
    obtain ⟨place, cell⟩ := entry
    by_cases gone : place = freed
    · rw [List.filter_cons_of_neg (by simp [gone]), ih, lookup_cons_eq, gone]
      split <;> simp_all
    · rw [List.filter_cons_of_pos (by simp [gone]), lookup_cons_eq, ih, lookup_cons_eq]
      by_cases here : address = place <;> simp_all

theorem find?_free {heap after : Heap} {freed : Address} (done : free freed heap = .ok () after)
    (address : Address) :
    after.find? address = if address = freed then none else heap.find? address := by
  obtain ⟨_, _, rfl⟩ := free_eq_ok_iff.mp done
  exact lookup_filter_ne heap.cells freed address

theorem lookup_replaceBlock (cells : List (Address × Cell)) (target address : Address)
    (block : Block) :
    (replaceBlock cells target block).lookup address =
      if address = target then (cells.lookup target).map fun cell => { cell with block }
      else cells.lookup address := by
  induction cells with
  | nil => simp [replaceBlock]
  | cons entry rest ih =>
    obtain ⟨place, cell⟩ := entry
    simp only [replaceBlock, List.map_cons] at ih ⊢
    by_cases written : place = target <;> by_cases here : address = place <;>
      simp_all [lookup_cons_eq, eq_comm]

theorem find?_write {heap after : Heap} {target : Address} {offset : Nat} {data : Block}
    (done : write target offset data heap = .ok () after) :
    ∃ cell block, heap.find? target = some cell ∧ cell.block.write? offset data = some block ∧
      ∀ address, after.find? address =
        if address = target then some { cell with block } else heap.find? address := by
  obtain ⟨cell, block, found, written, rfl⟩ := write_eq_ok_iff.mp done
  refine ⟨cell, block, found, written, fun address => ?_⟩
  rw [find?] at found ⊢
  simp [lookup_replaceBlock, found, find?]

end Heap

end ComputeHost
