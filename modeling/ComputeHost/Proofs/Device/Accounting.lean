/-
**The accounts of a heap.**

A heap keeps three numbers beside its blocks: how many bytes are live, how many may be, and where
the next block goes. The first is the sum of the sizes of the blocks that stand, and gets smaller
when one is given back; the last only ever grows, by at least one step for each block, so no two
blocks that were ever made share a byte or an address.

* `made` — all blocks that a history made, in order.
* `laid_pairwise` — blocks laid out one after the other do not overlap.
* `Run.accounted` — every history lays its blocks out from where the heap starts.
* `Run.accounts` — the accounts after every history.
-/

import ComputeHost.Proofs.Device.Chronicle

namespace ComputeHost.Heap

variable {heap after : Heap} {address : Address} {base capacity size : Nat} {sizes : List Nat}
  {residency : Residency} {history : List Exchange} {cause : DeviceError}

/-! ### Blocks one after the other -/

theorem granularity_dvd_span (size : Nat) : granularity ∣ span size :=
  Nat.dvd_mul_left _ _

theorem granularity_dvd_spent (sizes : List Nat) : granularity ∣ spent sizes := by
  induction sizes with
  | nil => exact Nat.dvd_zero _
  | cons size rest ih => exact Nat.dvd_add (granularity_dvd_span size) ih

theorem le_span (size : Nat) : size ≤ span size := by
  unfold span granularity
  omega

/-- Blocks that are laid out from a multiple of the granularity on are at multiples of it. -/
theorem laid_aligned (aligned : granularity ∣ base) {block : Address × Nat}
    (member : block ∈ laid base sizes) : granularity ∣ block.1.value := by
  induction sizes generalizing base with
  | nil => cases member
  | cons size rest ih =>
    rcases List.mem_cons.mp member with here | later
    · rw [here]
      exact aligned
    · exact ih (Nat.dvd_add aligned (granularity_dvd_span size)) later

/-- A block lies within what is spent on it and those before. -/
theorem laid_end_le {block : Address × Nat} (member : block ∈ laid base sizes) :
    block.1.value + block.2 ≤ base + spent sizes := by
  induction sizes generalizing base with
  | nil => cases member
  | cons size rest ih =>
    have room := le_span size
    rw [spent]
    rcases List.mem_cons.mp member with here | later
    · rw [here]
      simp only
      omega
    · have bound := ih later
      omega

/-- A block lies before another one, with all its bytes. -/
def Before (one other : Address × Nat) : Prop :=
  one.1.value < other.1.value ∧ one.1.value + one.2 ≤ other.1.value

theorem laid_pairwise (base : Nat) (sizes : List Nat) : (laid base sizes).Pairwise Before := by
  induction sizes generalizing base with
  | nil => exact .nil
  | cons size rest ih =>
    refine List.pairwise_cons.mpr ⟨fun (place, length) later => ?_, ih _⟩
    have start := (laid_bounds later).1
    have step := span_pos size
    have room := le_span size
    exact ⟨by simp only; omega, by simp only; omega⟩

/-! ### The blocks of a history -/

/-- The address and the size of a block that an exchange made. -/
def Exchange.extent? (exchange : Exchange) : Option (Address × Nat) :=
  exchange.made?.map fun block => (block.1, block.2.1)

/-- All blocks that a history made, given back or not, in the order of making. -/
def made (history : List Exchange) : List (Address × Nat) :=
  history.reverse.filterMap Exchange.extent?

theorem made_cons (exchange : Exchange) (history : List Exchange) :
    made (exchange :: history) = made history ++ exchange.extent?.toList := by
  unfold made
  rw [List.reverse_cons, List.filterMap_append, List.filterMap_cons]
  cases exchange.extent? <;> rfl

theorem made_cons_of_none {exchange : Exchange} (none_made : exchange.made? = none) :
    made (exchange :: history) = made history := by
  rw [made_cons, Exchange.extent?, none_made]
  exact List.append_nil _

/-- The accounts of a heap with such a history: its blocks are laid out from where it starts, those
that are live are some of them in the same order, and no more bytes are live than may be. -/
structure Accounted (base capacity : Nat) (history : List Exchange) (heap : Heap) : Prop where
  ordered : heap.Ordered
  laid : made history = laid base ((made history).map Prod.snd)
  next : heap.next = base + spent ((made history).map Prod.snd)
  live : heap.extents.Sublist (made history)
  limit : heap.capacity = capacity
  used : heap.used ≤ capacity

namespace Accounted

/-- Where no block is made, the accounts stay right as long as the heap goes on from the same
address. -/
theorem kept (accounted : Accounted base capacity history heap) {exchange : Exchange}
    (none_made : exchange.made? = none) (ordered : after.Ordered) (next : after.next = heap.next)
    (limit : after.capacity = heap.capacity) (live : after.extents.Sublist heap.extents)
    (used : after.used ≤ heap.used) :
    Accounted base capacity (exchange :: history) after := by
  refine ⟨ordered, ?_, ?_, ?_, limit.trans accounted.limit, used.trans accounted.used⟩
  · rw [made_cons_of_none none_made]
    exact accounted.laid
  · rw [made_cons_of_none none_made, next, accounted.next]
  · rw [made_cons_of_none none_made]
    exact live.trans accounted.live

theorem allocated (accounted : Accounted base capacity history heap) {fresh : Address}
    (done : allocate size residency heap = .ok fresh after) :
    Accounted base capacity (⟨.allocate size residency, .ok (.fresh fresh)⟩ :: history) after := by
  have more : made (⟨.allocate size residency, .ok (.fresh fresh)⟩ :: history) =
      made history ++ [(fresh, size)] := made_cons _ _
  have extents := extents_allocate done
  have ordered := accounted.ordered.allocate done
  obtain ⟨enough, rfl, rfl⟩ := allocate_inv done
  have room := accounted.used
  have limit := accounted.limit
  unfold available at enough
  refine ⟨ordered, ?_, ?_, ?_, limit, ?_⟩
  · rw [more, List.map_append, laid_append, ← accounted.laid, ← accounted.next]
    rfl
  · rw [more, List.map_append, spent_append, ← Nat.add_assoc, ← accounted.next,
      List.map_singleton, spent, spent, Nat.add_zero]
  · rw [more, extents]
    exact accounted.live.append (.refl _)
  · show heap.used + size ≤ capacity
    omega

theorem effect {request : Request} {reply : Except DeviceError Reply}
    (accounted : Accounted base capacity history heap)
    (effect : Effect heap request reply after) :
    Accounted base capacity (⟨request, reply⟩ :: history) after := by
  have ordered := accounted.ordered
  cases effect with
  | failed => exact accounted.kept (Exchange.idle_error _ _).made ordered rfl rfl (.refl _) le_rfl
  | made done => exact accounted.allocated done
  | freed done =>
    obtain ⟨next, part⟩ := free_frame done
    obtain ⟨size, _, _, used⟩ := extents_free done
    exact accounted.kept rfl (ordered.free done) next (capacity_free done) (part.map _)
      (used ▸ Nat.sub_le _ _)
  | wrote done =>
    obtain ⟨next, used, limit, _⟩ := write_frame done
    exact accounted.kept rfl (ordered.write done) next limit
      (ordered.extents_write done ▸ .refl _) (Nat.le_of_eq used)
  | range => exact accounted.kept (Exchange.idle_read _ _ _ _).made ordered rfl rfl (.refl _) le_rfl
  | view => exact accounted.kept (Exchange.idle_hostView _ _).made ordered rfl rfl (.refl _) le_rfl
  | cleared =>
    -- everything is given back, and the next address stays
    exact accounted.kept rfl (.of_nil rfl rfl) rfl rfl (List.nil_sublist _) (Nat.zero_le _)

end Accounted

/-- **Every history lays its blocks out from where the heap starts.** -/
theorem Run.accounted (run : Run base capacity history heap) :
    Accounted base capacity history heap := by
  induction run with
  | start => exact ⟨.start base capacity, rfl, rfl, .refl _, rfl, Nat.zero_le _⟩
  | ask _ request accounted => exact accounted.effect (ask_effect _ request)

/-- The live blocks are those that stand. -/
theorem Recounts.mem_extents (recounts : Recounts history heap) :
    (address, size) ∈ heap.extents ↔
      ∃ residency since, Stands history address size residency since := by
  rw [extents_eq, List.mem_map]
  constructor
  · rintro ⟨⟨place, ⟨residency, bytes⟩⟩, member, same⟩
    cases same
    have held := recounts.ordered.mem_contents.mp member
    obtain ⟨length, since, stands⟩ := recounts.live place _ held
    rw [recounts.stands place length _ since stands] at held
    cases held
    rw [lastBytes_length]
    exact ⟨residency, since, stands⟩
  · rintro ⟨residency, since, stands⟩
    have held := recounts.stands address size residency since stands
    exact ⟨_, recounts.ordered.mem_contents.mpr held, by rw [lastBytes_length]⟩

/-- The blocks listed without the storage of globals are the others that stand. -/
theorem Recounts.mem_nonGlobal (recounts : Recounts history heap) {allocation : Allocation} :
    allocation ∈ heap.nonGlobal ↔
      allocation.residency ≠ .global ∧
        ∃ since, Stands history allocation.address allocation.size allocation.residency since := by
  rw [recounts.ordered.mem_nonGlobal]
  constructor
  · rintro ⟨⟨residency, contents⟩, held, size, same⟩
    obtain ⟨live, other⟩ := data?_eq_some_iff.mp held
    obtain ⟨length, since, stands, rfl⟩ := recounts.content?_eq_some_iff.mp live
    rw [lastBytes_length] at size
    rw [size, same]
    exact ⟨other, since, stands⟩
  · rintro ⟨other, since, stands⟩
    have live := recounts.stands _ _ _ since stands
    exact ⟨_, data?_eq_some_iff.mpr ⟨live, other⟩, (lastBytes_length ..).symm, rfl⟩

/-- They are listed in the order of all live blocks. -/
theorem nonGlobal_sublist (heap : Heap) :
    (heap.nonGlobal.map fun allocation => (allocation.address, allocation.size)).Sublist
      heap.extents := by
  have all : heap.extents = (heap.cells.map fun entry => describe entry.1 entry.2).map
      fun allocation => (allocation.address, allocation.size) := by
    unfold extents
    rw [List.map_map]
    rfl
  rw [all]
  exact List.filter_sublist.map _

/-- **The accounts of a heap** that starts at a multiple of the granularity. After every history,
the bytes in use are those of the blocks that stand and no more than may be; allocating fails
exactly if more is asked for than is left, says how much that is and changes nothing; and a new
block is at a multiple of the granularity, beyond all blocks that were ever made. No two of these
overlap. The live ones are listed in the order of making, and so are those of them that are not the
storage of a global variable. -/
theorem Run.accounts (aligned : granularity ∣ base) (run : Run base capacity history heap) :
    ((∀ address size, (address, size) ∈ heap.extents ↔
        ∃ residency since, Stands history address size residency since) ∧
      heap.used = (heap.extents.map Prod.snd).sum ∧ heap.used ≤ capacity) ∧
    (∀ size residency,
      ((∃ cause after, allocate size residency heap = .error cause after) ↔
        capacity - (heap.extents.map Prod.snd).sum < size) ∧
      ∀ cause after, allocate size residency heap = .error cause after →
        cause = .outOfMemory size (capacity - (heap.extents.map Prod.snd).sum) ∧
          after = heap) ∧
    (∀ size residency fresh after, allocate size residency heap = .ok fresh after →
      granularity ∣ fresh.value ∧ ∀ block ∈ made history, Before block (fresh, size)) ∧
    (∀ block ∈ made history, granularity ∣ block.1.value) ∧
    (made history).Pairwise Before ∧
    heap.extents.Sublist (made history) ∧
    (∀ allocation, allocation ∈ heap.nonGlobal ↔
      allocation.residency ≠ .global ∧
        ∃ since, Stands history allocation.address allocation.size allocation.residency since) ∧
    (heap.nonGlobal.map fun allocation => (allocation.address, allocation.size)).Sublist
      (made history) := by
  have accounted := run.accounted
  have used : heap.used = (heap.extents.map Prod.snd).sum := accounted.ordered.accounted
  have left : heap.available = capacity - (heap.extents.map Prod.snd).sum := by
    rw [available, accounted.limit, used]
  refine ⟨⟨fun address size => run.recounts.mem_extents, used, accounted.used⟩,
    fun size residency => ⟨?_, fun cause after failed => ?_⟩,
    fun size residency fresh after done => ?_, fun block member => ?_, ?_, accounted.live,
    fun allocation => run.recounts.mem_nonGlobal, (nonGlobal_sublist heap).trans accounted.live⟩
  · simp only [allocate_eq_error_iff, left, exists_and_left, exists_eq, and_true]
  · obtain ⟨_, same, kept⟩ := allocate_eq_error_iff.mp failed
    exact ⟨left ▸ same, kept⟩
  · obtain ⟨_, rfl, _⟩ := allocate_inv done
    rw [accounted.next]
    refine ⟨Nat.dvd_add aligned (granularity_dvd_spent _), fun block member => ?_⟩
    rw [accounted.laid] at member
    exact ⟨(laid_bounds member).2, laid_end_le member⟩
  · rw [accounted.laid] at member
    exact laid_aligned aligned member
  · rw [accounted.laid]
    exact laid_pairwise base _

/-- An empty block and one of 40 bytes are made, and there is no room for another one; the second is
given back for one of 60 bytes; everything is given back, and one more block is made. -/
def turnover : List Request :=
  [.allocate 0 .deviceOnly, .allocate 40 .deviceOnly, .allocate 40 .global, .free ⟨4352⟩,
    .allocate 60 .global, .clear, .allocate 16 .deviceOnly]

/-- Four blocks were made, each beyond the one before, and only the last one is in use. -/
theorem accounts_turnover :
    granularity ∣ 4096 ∧
    made (record turnover (start 4096 64)) =
      [(⟨4096⟩, 0), (⟨4352⟩, 40), (⟨4608⟩, 60), (⟨4864⟩, 16)] ∧
    (made (record turnover (start 4096 64))).Pairwise Before ∧
    (∃ residency since, Stands (record turnover (start 4096 64)) ⟨4864⟩ 16 residency since) ∧
    (askAll turnover (start 4096 64)).used = 16 ∧
    (∃ cause after,
      allocate 49 .deviceOnly (askAll turnover (start 4096 64)) = .error cause after) ∧
    ∀ cause after, allocate 49 .deviceOnly (askAll turnover (start 4096 64)) = .error cause after →
      cause = .outOfMemory 49 48 := by
  have aligned : granularity ∣ 4096 := by decide
  have live : (askAll turnover (start 4096 64)).extents = [(⟨4864⟩, 16)] := by decide +kernel
  obtain ⟨⟨stand, used, _⟩, allocates, _, _, apart, _⟩ :=
    Run.accounts aligned (run_record 4096 64 turnover)
  simp only [live, List.map_cons, List.map_nil] at stand used allocates
  refine ⟨aligned, by decide +kernel, apart, (stand _ _).mp (List.mem_singleton_self _), used,
    (allocates 49 .deviceOnly).1.mpr (by decide), fun cause after failed => ?_⟩
  exact ((allocates 49 .deviceOnly).2 cause after failed).1

end ComputeHost.Heap
