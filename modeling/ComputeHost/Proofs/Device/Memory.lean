/-
**What a heap holds.**

`Heap.content?` is the view: what is live at an address, as its residency and its bytes. How a block
is kept in pieces does not show. `Heap.data?` leaves out the storage of global variables.

* `content?_allocate`, `content?_free`, `content?_write` — each operation changes what is held at
  one address.
* `Ordered` — addresses ascend and stay below the next one, so a fresh address is no live one
  (`Ordered.content?_of_next_le`), and the bytes in use are those of all that is live; every
  operation keeps it.
* `Ordered.contents_congr` — what is live at the addresses decides the list of all that is live, and
  with it the bytes in use.
* `Ordered.mem_nonGlobal` — the allocations listed for a move are exactly the live data.
-/

import ComputeHost.Device.Heap
import ComputeHost.Proofs.Lookup
import Mathlib.Algebra.GroupWithZero.Nat
import Mathlib.Data.List.Sort

namespace ComputeHost

/-- So many bytes from a position on. -/
def Bytes.slice (bytes : Bytes) (offset length : Nat) : Bytes := (bytes.drop offset).take length

/-- The bytes with a part overwritten. -/
def Bytes.splice (bytes : Bytes) (offset : Nat) (data : Bytes) : Bytes :=
  bytes.take offset ++ data ++ bytes.drop (offset + data.length)

theorem Bytes.splice_length {bytes data : Bytes} {offset : Nat}
    (within : offset + data.length ≤ bytes.length) :
    (bytes.splice offset data).length = bytes.length := by
  unfold splice
  simp only [List.length_append, List.length_take, List.length_drop]
  omega

/-- Overwriting everything leaves what was written. -/
theorem Bytes.splice_all {bytes data : Bytes} (whole : data.length = bytes.length) :
    bytes.splice 0 data = data := by
  unfold splice
  rw [List.take_zero, List.nil_append, List.drop_of_length_le (by omega), List.append_nil]

theorem Bytes.slice_all (bytes : Bytes) : bytes.slice 0 bytes.length = bytes := by
  unfold slice
  rw [List.drop_zero, List.take_length]

/-- What is live at an address. -/
structure Content where
  residency : Residency
  bytes : Bytes
  deriving DecidableEq

/-- A cell without how its block is kept. -/
def Cell.content (cell : Cell) : Content := ⟨cell.residency, cell.block.bytes⟩

/-- The storage of global variables is no data of a buffer. -/
def Content.isData (content : Content) : Bool := content.residency ≠ .global

namespace Heap

variable {heap after : Heap} {address fresh target : Address} {base size offset length : Nat}
  {residency : Residency} {content : Content} {sizes more : List Nat}

/-- What is live at an address. -/
def content? (heap : Heap) (address : Address) : Option Content :=
  (heap.find? address).map Cell.content

/-- What is live at an address, unless it is the storage of a global variable. -/
def data? (heap : Heap) (address : Address) : Option Content :=
  (heap.content? address).filter Content.isData

/-- How many bytes are live at an address. -/
def sizeAt (heap : Heap) (address : Address) : Nat :=
  ((heap.content? address).map fun content => content.bytes.length).getD 0

/-- All that is live, in the order of the addresses. -/
def contents (heap : Heap) : List (Address × Content) :=
  heap.cells.map fun entry => (entry.1, entry.2.content)

/-- The live blocks, each with its address and size. -/
def extents (heap : Heap) : List (Address × Nat) :=
  heap.cells.map fun entry => (entry.1, entry.2.block.size)

/-- How many bytes blocks take together. -/
def weight (extents : List (Address × Nat)) : Nat := (extents.map Prod.snd).sum

theorem weight_append (front back : List (Address × Nat)) :
    weight (front ++ back) = weight front + weight back := by
  simp [weight]

theorem map_fst_contents (heap : Heap) :
    heap.contents.map Prod.fst = heap.cells.map Prod.fst := by
  unfold contents
  rw [List.map_map]
  rfl

theorem map_fst_extents (heap : Heap) :
    heap.extents.map Prod.fst = heap.cells.map Prod.fst := by
  unfold extents
  rw [List.map_map]
  rfl

/-- The blocks are those of the contents. -/
theorem extents_eq (heap : Heap) :
    heap.extents = heap.contents.map fun entry => (entry.1, entry.2.bytes.length) := by
  unfold extents contents
  rw [List.map_map]
  refine List.map_congr_left fun entry _ => ?_
  simp [Cell.content]

/-- Without one of them, blocks at different addresses take as much less as that one takes. -/
theorem weight_filter_ne {extents : List (Address × Nat)}
    (distinct : (extents.map Prod.fst).Nodup) (member : (address, size) ∈ extents) :
    weight (extents.filter fun extent => extent.1 ≠ address) + size = weight extents := by
  induction extents with
  | nil => cases member
  | cons first rest ih =>
    obtain ⟨place, length⟩ := first
    rw [List.map_cons, List.nodup_cons] at distinct
    rcases List.mem_cons.mp member with here | later
    · cases here
      have others : rest.filter (fun extent => extent.1 ≠ address) = rest := by
        refine List.filter_eq_self.mpr fun extent among => decide_eq_true fun same => ?_
        exact distinct.1 (List.mem_map.mpr ⟨extent, among, same⟩)
      rw [List.filter_cons_of_neg (by simp), others]
      simp [weight, Nat.add_comm]
    · have other : place ≠ address := fun same =>
        distinct.1 (List.mem_map.mpr ⟨(address, size), later, same.symm⟩)
      have parts := ih distinct.2 later
      rw [List.filter_cons_of_pos (by simpa using other)]
      simp only [weight, List.map_cons, List.sum_cons] at parts ⊢
      omega

/-! ### Blocks one after the other -/

/-- How many bytes of addresses blocks of these sizes take. -/
def spent : List Nat → Nat
  | [] => 0
  | size :: rest => span size + spent rest

/-- Blocks of these sizes one after the other, each with its address. -/
def laid (base : Nat) : List Nat → List (Address × Nat)
  | [] => []
  | size :: rest => (⟨base⟩, size) :: laid (base + span size) rest

theorem span_pos (size : Nat) : 0 < span size := by
  unfold span granularity
  omega

theorem spent_append (sizes more : List Nat) :
    spent (sizes ++ more) = spent sizes + spent more := by
  induction sizes with
  | nil => rw [List.nil_append, spent, Nat.zero_add]
  | cons size rest ih => rw [List.cons_append, spent, ih, spent, Nat.add_assoc]

theorem laid_append (base : Nat) (sizes more : List Nat) :
    laid base (sizes ++ more) = laid base sizes ++ laid (base + spent sizes) more := by
  induction sizes generalizing base with
  | nil => rfl
  | cons size rest ih =>
    rw [List.cons_append, laid, laid, ih, List.cons_append, spent, Nat.add_assoc]

theorem map_snd_laid (base : Nat) (sizes : List Nat) : (laid base sizes).map Prod.snd = sizes := by
  induction sizes generalizing base with
  | nil => rfl
  | cons size rest ih => rw [laid, List.map_cons, ih]

/-- Blocks lie within what they span. -/
theorem laid_bounds (member : (address, size) ∈ laid base sizes) :
    base ≤ address.value ∧ address.value < base + spent sizes := by
  induction sizes generalizing base with
  | nil => cases member
  | cons first rest ih =>
    have room := span_pos first
    rw [spent]
    rcases List.mem_cons.mp member with here | later
    · cases here
      simp only
      omega
    · have bounds := ih later
      omega

theorem weight_laid (base : Nat) (sizes : List Nat) : weight (laid base sizes) = sizes.sum := by
  unfold weight
  rw [map_snd_laid]

/-! ### What is live at an address -/

theorem content?_eq_some_iff :
    heap.content? address = some content ↔
      ∃ cell, heap.find? address = some cell ∧ cell.content = content := by
  unfold content?
  exact Option.map_eq_some_iff

/-- A device describes what is live without the bytes. -/
theorem info?_eq (heap : Heap) (address : Address) :
    heap.info? address = (heap.content? address).map fun content =>
      ⟨address, content.bytes.length, content.residency⟩ := by
  unfold info? content?
  rw [Option.map_map]
  refine congrArg (Option.map · _) (funext fun cell => ?_)
  simp [describe, Cell.content]

theorem data?_eq_some_iff :
    heap.data? address = some content ↔
      heap.content? address = some content ∧ content.residency ≠ .global := by
  unfold data?
  rw [Option.filter_eq_some_iff]
  simp [Content.isData]

/-! ### One operation -/

theorem allocate_ok (enough : size ≤ heap.available) :
    allocate size residency heap =
      .ok ⟨heap.next⟩
        { heap with
          cells := heap.cells ++ [(⟨heap.next⟩, ⟨residency, Block.zeroed size⟩)]
          next := heap.next + span size
          used := heap.used + size } := by
  unfold allocate
  rw [if_neg (by omega)]

theorem allocate_inv (done : allocate size residency heap = .ok fresh after) :
    size ≤ heap.available ∧ fresh = ⟨heap.next⟩ ∧
      after =
        { heap with
          cells := heap.cells ++ [(⟨heap.next⟩, ⟨residency, Block.zeroed size⟩)]
          next := heap.next + span size
          used := heap.used + size } := by
  by_cases enough : size ≤ heap.available
  · rw [allocate_ok enough] at done
    cases done
    exact ⟨enough, rfl, rfl⟩
  · unfold allocate at done
    rw [if_pos (by omega)] at done
    cases done

theorem next_le_fresh (done : allocate size residency heap = .ok fresh after) :
    heap.next ≤ fresh.value :=
  Nat.le_of_eq (congrArg Address.value (allocate_inv done).2.1).symm

theorem next_le_allocate (done : allocate size residency heap = .ok fresh after) :
    heap.next ≤ after.next := by
  obtain ⟨_, _, rfl⟩ := allocate_inv done
  exact Nat.le_add_right _ _

theorem available_allocate (done : allocate size residency heap = .ok fresh after) :
    after.available = heap.available - size := by
  obtain ⟨_, _, rfl⟩ := allocate_inv done
  unfold available
  simp only
  omega

/-- A new block comes after all others. -/
theorem extents_allocate (done : allocate size residency heap = .ok fresh after) :
    after.extents = heap.extents ++ [(fresh, size)] := by
  obtain ⟨_, rfl, rfl⟩ := allocate_inv done
  unfold extents
  rw [List.map_append, List.map_singleton, Block.size_zeroed]

theorem free_ok (live : heap.content? address = some content) :
    ∃ after, free address heap = .ok () after := by
  obtain ⟨cell, found, _⟩ := content?_eq_some_iff.mp live
  exact ⟨_, free_eq_ok_iff.mpr ⟨cell, found, rfl⟩⟩

/-- After freeing, only the freed address has changed. -/
theorem content?_free (done : free target heap = .ok () after) (address : Address) :
    after.content? address = if address = target then none else heap.content? address := by
  unfold content?
  rw [find?_free done]
  split <;> rfl

theorem free_frame (done : free target heap = .ok () after) :
    after.next = heap.next ∧ after.cells.Sublist heap.cells := by
  obtain ⟨_, _, rfl⟩ := free_eq_ok_iff.mp done
  exact ⟨rfl, List.filter_sublist⟩

theorem capacity_free (done : free target heap = .ok () after) :
    after.capacity = heap.capacity := by
  obtain ⟨_, _, rfl⟩ := free_eq_ok_iff.mp done
  rfl

/-- **Two addresses may be freed in either order.** -/
theorem free_comm {first second : Address} {one both : Heap} (apart : first ≠ second)
    (done : free first heap = .ok () one) (next : free second one = .ok () both) :
    ∃ other, free second heap = .ok () other ∧ free first other = .ok () both := by
  have here := find?_free done second
  obtain ⟨cell, found, rfl⟩ := free_eq_ok_iff.mp done
  obtain ⟨cell', found', rfl⟩ := free_eq_ok_iff.mp next
  rw [if_neg apart.symm, found'] at here
  have freed := free_eq_ok_iff.mpr ⟨cell', here.symm, rfl⟩
  refine ⟨_, freed, free_eq_ok_iff.mpr ⟨cell, ?_, ?_⟩⟩
  · rw [find?_free freed, if_neg apart, found]
  · simp only [List.filter_filter, Bool.and_comm, Nat.sub_right_comm]

/-- The freed block no longer counts. -/
theorem extents_free (done : free target heap = .ok () after) :
    ∃ size, (target, size) ∈ heap.extents ∧
      after.extents = (heap.extents.filter fun extent => extent.1 ≠ target) ∧
      after.used = heap.used - size := by
  obtain ⟨cell, found, rfl⟩ := free_eq_ok_iff.mp done
  refine ⟨cell.block.size, ?_, ?_, rfl⟩
  · exact List.mem_map.mpr ⟨(target, cell), mem_of_lookup found, rfl⟩
  · unfold extents
    rw [List.filter_map]
    rfl

/-- Writing within a live block succeeds. -/
theorem write_ok (live : heap.content? target = some content) (offset : Nat) (data : Block)
    (within : offset + data.size ≤ content.bytes.length) :
    ∃ after, write target offset data heap = .ok () after := by
  obtain ⟨cell, found, rfl⟩ := content?_eq_some_iff.mp live
  have fits : ¬ cell.block.size < offset + data.size := by
    simp only [Cell.content, Block.bytes_length] at within
    omega
  cases written : cell.block.write? offset data with
  | none => exact absurd (Block.write?_eq_none_iff.mp written) fits
  | some block => exact ⟨_, write_eq_ok_iff.mpr ⟨cell, block, found, written, rfl⟩⟩

/-- Writing overwrites a part of one live block and changes nothing else. -/
theorem content?_write {data : Block} (done : write target offset data heap = .ok () after) :
    ∃ content, heap.content? target = some content ∧
      offset + data.size ≤ content.bytes.length ∧
      ∀ address, after.content? address =
        if address = target then
          some ⟨content.residency, content.bytes.splice offset data.bytes⟩
        else heap.content? address := by
  obtain ⟨cell, block, found, written, other⟩ := find?_write done
  have within : ¬ cell.block.size < offset + data.size := by
    rw [← Block.write?_eq_none_iff, written]
    simp
  refine ⟨cell.content, content?_eq_some_iff.mpr ⟨cell, found, rfl⟩, ?_, fun address => ?_⟩
  · simp only [Cell.content, Block.bytes_length]
    omega
  · unfold content?
    rw [other address]
    split
    · rw [Option.map_some]
      simp only [Cell.content, Bytes.splice, Block.bytes_write written, Block.bytes_length]
    · rfl

theorem write_frame {data : Block} (done : write target offset data heap = .ok () after) :
    after.next = heap.next ∧ after.used = heap.used ∧ after.capacity = heap.capacity ∧
      after.cells.map Prod.fst = heap.cells.map Prod.fst := by
  obtain ⟨_, _, _, _, rfl⟩ := write_eq_ok_iff.mp done
  refine ⟨rfl, rfl, rfl, ?_⟩
  simp only [replaceBlock, List.map_map]
  refine List.map_congr_left fun entry _ => ?_
  simp only [Function.comp_apply]
  split <;> rfl

/-- Reading within a live block gives the bytes that it holds there. -/
theorem copyOut_ok (live : heap.content? target = some content) (offset : Nat) (out : Block)
    (within : offset + out.size ≤ content.bytes.length) :
    ∃ data, heap.copyOut target offset out = .ok () data ∧
      data.bytes = content.bytes.slice offset out.size := by
  obtain ⟨cell, found, rfl⟩ := content?_eq_some_iff.mp live
  have fits : ¬ cell.block.size < offset + out.size := by
    simp only [Cell.content, Block.bytes_length] at within
    omega
  unfold copyOut
  rw [found]
  simp only
  cases range : cell.block.read? offset out.size with
  | none => exact absurd (Block.read?_eq_none_iff.mp range) fits
  | some data => exact ⟨data, rfl, Block.bytes_read range⟩

theorem read_ok (live : heap.content? target = some content) (offset length : Nat)
    (within : offset + length ≤ content.bytes.length) :
    ∃ data, read target offset length heap = .ok data heap ∧
      data.bytes = content.bytes.slice offset length := by
  obtain ⟨data, copied, bytes⟩ :=
    copyOut_ok live offset (.zeroed length) (by rwa [Block.size_zeroed])
  rw [Block.size_zeroed] at bytes
  refine ⟨data, ?_, bytes⟩
  unfold read
  rw [copied]

theorem copyOut_inv {out data : Block} (done : heap.copyOut target offset out = .ok () data) :
    ∃ content, heap.content? target = some content ∧
      offset + out.size ≤ content.bytes.length ∧
        data.bytes = content.bytes.slice offset out.size := by
  unfold copyOut at done
  split at done
  · cases done
  · rename_i cell found
    split at done
    · cases done
    · rename_i range
      cases done
      have within : ¬ cell.block.size < offset + out.size := by
        rw [← Block.read?_eq_none_iff, range]
        simp
      refine ⟨cell.content, content?_eq_some_iff.mpr ⟨cell, found, rfl⟩, ?_, Block.bytes_read range⟩
      simp only [Cell.content, Block.bytes_length]
      omega

theorem read_inv {data : Block} (done : read target offset length heap = .ok data after) :
    ∃ content, heap.content? target = some content ∧
      offset + length ≤ content.bytes.length ∧ data.bytes = content.bytes.slice offset length := by
  have copied := copyOut_inv (read_eq_ok done).2
  rwa [Block.size_zeroed] at copied

theorem hostView_eq {flags : HostAllocFlags} (live : heap.content? target = some content)
    (visible : content.residency = .hostVisible flags) :
    ∃ view, heap.hostView target = some view ∧ view.bytes = content.bytes := by
  obtain ⟨⟨kind, block⟩, found, rfl⟩ := content?_eq_some_iff.mp live
  simp only [Cell.content] at visible
  subst visible
  unfold hostView
  rw [found]
  exact ⟨block, rfl, rfl⟩

/-! ### Heaps in order -/

/-- Addresses ascend, all lie below the next one, and the bytes in use are those of all that is
live. -/
structure Ordered (heap : Heap) : Prop where
  ascending : (heap.cells.map Prod.fst).Pairwise fun one other => one.value < other.value
  below : ∀ address ∈ heap.cells.map Prod.fst, address.value < heap.next
  accounted : heap.used = weight heap.extents

/-- A heap without allocations is in order, wherever its addresses go on. -/
theorem Ordered.of_nil (cells : heap.cells = []) (used : heap.used = 0) : heap.Ordered := by
  refine ⟨?_, fun address member => ?_, ?_⟩
  · rw [cells]
    exact .nil
  · rw [cells] at member
    cases member
  · rw [used, extents, cells]
    rfl

theorem Ordered.start (base capacity : Nat) : (Heap.start base capacity).Ordered := .of_nil rfl rfl

namespace Ordered

theorem nodup (ordered : heap.Ordered) : (heap.cells.map Prod.fst).Nodup :=
  ordered.ascending.imp fun {one two} less (same : one = two) =>
    Nat.lt_irrefl _ (same ▸ less : one.value < one.value)

theorem find?_eq_some_iff (ordered : heap.Ordered) {cell : Cell} :
    heap.find? address = some cell ↔ (address, cell) ∈ heap.cells :=
  lookup_eq_some_iff_mem ordered.nodup

theorem content?_eq_some_iff (ordered : heap.Ordered) :
    heap.content? address = some content ↔
      ∃ cell, (address, cell) ∈ heap.cells ∧ cell.content = content := by
  rw [Heap.content?_eq_some_iff]
  simp only [ordered.find?_eq_some_iff]

theorem mem_contents (ordered : heap.Ordered) :
    (address, content) ∈ heap.contents ↔ heap.content? address = some content := by
  rw [ordered.content?_eq_some_iff, contents, List.mem_map]
  constructor
  · rintro ⟨⟨place, cell⟩, member, same⟩
    cases same
    exact ⟨cell, member, rfl⟩
  · rintro ⟨cell, member, rfl⟩
    exact ⟨(address, cell), member, rfl⟩

theorem contents_ascending (ordered : heap.Ordered) :
    heap.contents.Pairwise fun one other => one.1.value < other.1.value := by
  have ascending := ordered.ascending
  rw [← map_fst_contents, List.pairwise_map] at ascending
  exact ascending

/-- What ascends does not repeat. -/
theorem nodup_of_ascending {contents : List (Address × Content)}
    (ascending : contents.Pairwise fun one other => one.1.value < other.1.value) :
    contents.Nodup :=
  ascending.imp fun {one two} less (same : one = two) =>
    Nat.lt_irrefl _ (same ▸ less : one.1.value < one.1.value)

/-- What is live at the addresses decides all that is live, up to order. -/
theorem contents_perm (ordered : heap.Ordered) {contents : List (Address × Content)}
    (nodup : contents.Nodup)
    (same : ∀ address content, (address, content) ∈ contents ↔
      heap.content? address = some content) : heap.contents.Perm contents := by
  refine (List.perm_ext_iff_of_nodup (nodup_of_ascending ordered.contents_ascending) nodup).mpr
    fun (address, content) => ?_
  rw [ordered.mem_contents, same]

/-- What is live at the addresses decides the list of all that is live. -/
theorem contents_eq (ordered : heap.Ordered) {contents : List (Address × Content)}
    (ascending : contents.Pairwise fun one other => one.1.value < other.1.value)
    (same : ∀ address content, (address, content) ∈ contents ↔
      heap.content? address = some content) : heap.contents = contents :=
  List.Perm.eq_of_pairwise (fun _ _ _ _ less more => absurd (Nat.lt_trans less more)
    (Nat.lt_irrefl _)) ordered.contents_ascending ascending
    (ordered.contents_perm (nodup_of_ascending ascending) same)

/-- Any list of all that is live accounts for the bytes in use. -/
theorem used_eq_sum (ordered : heap.Ordered) {contents : List (Address × Content)}
    (nodup : contents.Nodup)
    (same : ∀ address content, (address, content) ∈ contents ↔
      heap.content? address = some content) :
    heap.used = (contents.map fun entry => entry.2.bytes.length).sum := by
  rw [ordered.accounted, extents_eq, weight, List.map_map]
  exact ((ordered.contents_perm nodup same).map _).sum_nat

/-- Where some of what is live is gone, as many fewer bytes are in use. -/
theorem used_without (ordered : heap.Ordered) (ordered' : after.Ordered) {gone : List Address}
    (distinct : gone.Nodup)
    (view : ∀ address, after.content? address =
      if address ∈ gone then none else heap.content? address) :
    after.used + (gone.map heap.sizeAt).sum = heap.used := by
  let taken (address : Address) : Option (Address × Content) :=
    (heap.content? address).map (address, ·)
  have mem_taken : ∀ address content, (address, content) ∈ gone.filterMap taken ↔
      address ∈ gone ∧ heap.content? address = some content := by
    intro address content
    simp [taken, List.mem_filterMap]
  have apart : (after.contents ++ gone.filterMap taken).Nodup := by
    refine List.nodup_append.mpr ⟨(nodup_of_ascending ordered'.contents_ascending), ?_, ?_⟩
    · refine distinct.filterMap fun one other entry here there => ?_
      obtain ⟨_, _, rfl⟩ := Option.map_eq_some_iff.mp here
      obtain ⟨_, _, same⟩ := Option.map_eq_some_iff.mp there
      exact (congrArg Prod.fst same).symm
    · rintro ⟨address, content⟩ left _ right rfl
      rw [ordered'.mem_contents, view, if_pos ((mem_taken _ _).mp right).1] at left
      cases left
  have total := ordered.used_eq_sum apart fun address content => by
    rw [List.mem_append, ordered'.mem_contents, mem_taken, view]
    by_cases here : address ∈ gone <;> simp [here]
  have sizes : ((gone.filterMap taken).map fun entry => entry.2.bytes.length).sum =
      (gone.map heap.sizeAt).sum := by
    clear total apart mem_taken distinct view
    induction gone with
    | nil => rfl
    | cons address rest ih =>
      rw [List.map_cons, List.sum_cons, ← ih, List.filterMap_cons]
      unfold sizeAt
      cases live : heap.content? address <;> simp [taken, live]
  have rest := ordered'.used_eq_sum (nodup_of_ascending ordered'.contents_ascending)
    fun _ _ => ordered'.mem_contents
  rw [total, List.map_append, List.sum_append, sizes, ← rest]

theorem contents_congr {other : Heap} (ordered : heap.Ordered) (ordered' : other.Ordered)
    (same : ∀ address, other.content? address = heap.content? address) :
    other.contents = heap.contents := by
  refine ordered'.contents_eq ordered.contents_ascending fun address content => ?_
  rw [ordered.mem_contents, same]

/-- Where the same is live, the same number of bytes is in use. -/
theorem used_congr {other : Heap} (ordered : heap.Ordered) (ordered' : other.Ordered)
    (same : ∀ address, other.content? address = heap.content? address) :
    other.used = heap.used := by
  rw [ordered'.accounted, ordered.accounted, extents_eq, extents_eq,
    ordered.contents_congr ordered' same]

/-- Writing makes no block and changes no size. -/
theorem extents_write {data : Block} (ordered : heap.Ordered)
    (done : Heap.write address offset data heap = .ok () after) : after.extents = heap.extents := by
  unfold Heap.write at done
  split at done
  · cases done
  · rename_i cell found
    split at done
    · cases done
    · rename_i block written
      cases done
      unfold extents replaceBlock
      rw [List.map_map]
      refine List.map_congr_left fun (place, held) member => ?_
      simp only [Function.comp_apply]
      split
      · rename_i here
        -- the address is that of one cell only
        subst here
        obtain rfl : held = cell :=
          Option.some.inj ((ordered.find?_eq_some_iff.mpr member).symm.trans found)
        rw [Block.size_write written]
      · rfl

theorem lt_next (ordered : heap.Ordered) (live : heap.content? address = some content) :
    address.value < heap.next := by
  obtain ⟨cell, member, _⟩ := ordered.content?_eq_some_iff.mp live
  exact ordered.below address (List.mem_map_of_mem member)

/-- Nothing is live from the next address on. -/
theorem content?_of_next_le (ordered : heap.Ordered) (beyond : heap.next ≤ address.value) :
    heap.content? address = none := by
  cases live : heap.content? address with
  | none => rfl
  | some content => exact absurd (ordered.lt_next live) (by omega)

/-- What is new at an address beyond all others is the last of all that is live. -/
theorem contents_push (ordered : heap.Ordered) (ordered' : after.Ordered)
    (fresh : heap.next ≤ target.value)
    (view : ∀ address, after.content? address =
      if address = target then some content else heap.content? address) :
    after.contents = heap.contents ++ [(target, content)] := by
  refine ordered'.contents_eq ?_ fun address held => ?_
  · rw [List.pairwise_append]
    refine ⟨ordered.contents_ascending, List.pairwise_singleton _ _,
      fun one member other last => ?_⟩
    obtain rfl := List.mem_singleton.mp last
    exact Nat.lt_of_lt_of_le (ordered.lt_next (ordered.mem_contents.mp member)) fresh
  · rw [List.mem_append, ordered.mem_contents, List.mem_singleton, view, Prod.mk.injEq]
    by_cases here : address = target
    · rw [here, ordered.content?_of_next_le fresh, if_pos rfl]
      simp [eq_comm]
    · simp [here]

theorem allocate (ordered : heap.Ordered)
    (done : Heap.allocate size residency heap = .ok fresh after) : after.Ordered := by
  obtain ⟨_, _, rfl⟩ := allocate_inv done
  have room := span_pos size
  refine ⟨?_, fun address member => ?_, ?_⟩
  · rw [List.map_append, List.pairwise_append]
    refine ⟨ordered.ascending, List.pairwise_singleton _ _, fun one member other last => ?_⟩
    rw [List.mem_singleton.mp last]
    exact ordered.below one member
  · rw [List.map_append, List.mem_append] at member
    rcases member with old | new
    · exact Nat.lt_add_right _ (ordered.below address old)
    · rw [List.mem_singleton.mp new]
      simp only
      omega
  · rw [extents_allocate done, weight_append, ← ordered.accounted]
    rfl

theorem free (ordered : heap.Ordered) (done : Heap.free target heap = .ok () after) :
    after.Ordered := by
  obtain ⟨next, part⟩ := free_frame done
  have kept := part.map Prod.fst
  refine ⟨ordered.ascending.sublist kept, fun address member => ?_, ?_⟩
  · rw [next]
    exact ordered.below address (kept.subset member)
  · obtain ⟨size, among, extents, used⟩ := extents_free done
    have parts := weight_filter_ne (heap.map_fst_extents ▸ ordered.nodup) among
    rw [used, extents, ordered.accounted]
    omega

theorem write {data : Block} (ordered : heap.Ordered)
    (done : Heap.write target offset data heap = .ok () after) : after.Ordered := by
  obtain ⟨next, used, _, places⟩ := write_frame done
  refine ⟨?_, ?_, ?_⟩
  · rw [places]
    exact ordered.ascending
  · rw [places, next]
    exact ordered.below
  · rw [used, ordered.extents_write done]
    exact ordered.accounted

/-- A fresh address holds zeros, and all other addresses what they held. -/
theorem content?_allocate (ordered : heap.Ordered)
    (done : Heap.allocate size residency heap = .ok fresh after) (address : Address) :
    after.content? address =
      if address = fresh then some ⟨residency, Bytes.zeros size⟩ else heap.content? address := by
  unfold content?
  rw [find?_allocate done]
  by_cases here : address = fresh
  · have absent : heap.content? fresh = none :=
      ordered.content?_of_next_le (next_le_fresh done)
    unfold content? at absent
    rw [Option.map_eq_none_iff] at absent
    rw [here, absent, if_pos rfl, if_pos rfl]
    simp [Cell.content]
  · rw [if_neg here, if_neg here, Option.or_none]

/-- After freeing, nothing is live at the address, whether or not anything was. -/
theorem vacate (ordered : heap.Ordered) (target : Address) :
    ∃ after, (Heap.free target heap = .ok () after ∨
        ∃ cause, Heap.free target heap = .error cause after) ∧
      after.Ordered ∧
      ∀ address, after.content? address =
        if address = target then none else heap.content? address := by
  cases freed : Heap.free target heap with
  | ok _ after => exact ⟨after, .inl rfl, ordered.free freed, content?_free freed⟩
  | error cause after =>
    obtain rfl := free_eq_error freed
    refine ⟨after, .inr ⟨cause, rfl⟩, ordered, fun address => ?_⟩
    by_cases here : address = target
    · subst here
      rw [if_pos rfl]
      cases live : after.content? address with
      | none => rfl
      | some content =>
        obtain ⟨_, done⟩ := free_ok live
        rw [done] at freed
        cases freed
    · rw [if_neg here]

/-- A fresh block can be filled as a whole. -/
theorem fill (ordered : heap.Ordered) {middle : Heap} {data : Block}
    (done : Heap.allocate size residency heap = .ok fresh middle) (whole : data.size = size) :
    ∃ after, Heap.write fresh 0 data middle = .ok () after ∧ after.Ordered ∧
      after.next = middle.next ∧ after.available = middle.available ∧
      ∀ address, after.content? address =
        if address = fresh then some ⟨residency, data.bytes⟩ else heap.content? address := by
  have live : middle.content? fresh = some ⟨residency, Bytes.zeros size⟩ := by
    rw [ordered.content?_allocate done, if_pos rfl]
  obtain ⟨after, wrote⟩ := write_ok live 0 data (by simp [whole])
  obtain ⟨next, used, capacity, _⟩ := write_frame wrote
  have available : after.available = middle.available := by
    unfold available
    rw [used, capacity]
  obtain ⟨content, before, _, view⟩ := content?_write wrote
  obtain rfl : content = ⟨residency, Bytes.zeros size⟩ := Option.some.inj (before.symm.trans live)
  refine ⟨after, wrote, (ordered.allocate done).write wrote, next, available, fun address => ?_⟩
  rw [view address]
  split
  · rw [Bytes.splice_all (by simp [whole])]
  · rename_i other
    rw [ordered.content?_allocate done, if_neg other]

/-! ### The data of a heap as a list -/

/-- The allocations listed are the live data, each with its size and residency. -/
theorem mem_nonGlobal (ordered : heap.Ordered) {allocation : Allocation} :
    allocation ∈ heap.nonGlobal ↔
      ∃ content, heap.data? allocation.address = some content ∧
        allocation.size = content.bytes.length ∧ allocation.residency = content.residency := by
  unfold nonGlobal
  rw [List.mem_filter, List.mem_map]
  constructor
  · rintro ⟨⟨⟨place, cell⟩, member, rfl⟩, kind⟩
    refine ⟨cell.content, data?_eq_some_iff.mpr ⟨?_, ?_⟩, ?_, rfl⟩
    · exact ordered.content?_eq_some_iff.mpr ⟨cell, member, rfl⟩
    · exact of_decide_eq_true kind
    · simp [describe, Cell.content]
  · rintro ⟨content, held, size, residency⟩
    obtain ⟨live, kind⟩ := data?_eq_some_iff.mp held
    obtain ⟨cell, member, rfl⟩ := ordered.content?_eq_some_iff.mp live
    refine ⟨⟨(allocation.address, cell), member, ?_⟩, ?_⟩
    · cases allocation
      simp_all [describe, Cell.content]
    · rw [residency]
      simpa using kind

theorem nonGlobal_nodup (ordered : heap.Ordered) :
    (heap.nonGlobal.map Allocation.address).Nodup := by
  unfold nonGlobal
  refine List.Nodup.sublist (List.filter_sublist.map Allocation.address) ?_
  rw [List.map_map]
  exact ordered.nodup

end Ordered

end Heap

end ComputeHost
