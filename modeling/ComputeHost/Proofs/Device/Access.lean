/-
**Reading and writing a heap.**

An access is to a part of one block, named by the address of the block. It succeeds exactly if the
block stands and has the part, and then gives or changes the bytes of that block only: every
position holds what was last written there, whatever became of other blocks in between.

* `copyOut_eq_error_iff`, `read_eq_error_iff`, `write_eq_error_iff`, `free_eq_error_iff` — why a
  request is refused, and that nothing has changed then.
* `Run.accesses` — every access after every history.
-/

import ComputeHost.Proofs.Device.Chronicle

namespace ComputeHost.Heap

variable {heap after : Heap} {address : Address} {base capacity offset length : Nat}
  {history : List Exchange} {cause : DeviceError}

/-! ### Refusals -/

theorem content?_eq_none_iff : heap.content? address = none ↔ heap.find? address = none :=
  Option.map_eq_none_iff

theorem copyOut_of_absent (absent : heap.content? address = none) (offset : Nat) (out : Block) :
    heap.copyOut address offset out = .error (.invalidPointer address) out := by
  unfold copyOut
  rw [content?_eq_none_iff.mp absent]

theorem copyOut_of_beyond {content : Content} {out : Block}
    (held : heap.content? address = some content)
    (beyond : content.bytes.length < offset + out.size) :
    heap.copyOut address offset out =
      .error (.outOfBounds address offset out.size content.bytes.length) out := by
  obtain ⟨cell, found, rfl⟩ := content?_eq_some_iff.mp held
  have size : cell.content.bytes.length = cell.block.size := cell.block.bytes_length
  rw [size] at beyond ⊢
  unfold copyOut
  rw [found]
  simp only
  rw [Block.read?_eq_none_iff.mpr beyond]

theorem write_of_absent (absent : heap.content? address = none) (offset : Nat) (data : Block) :
    write address offset data heap = .error (.invalidPointer address) heap := by
  unfold write
  rw [content?_eq_none_iff.mp absent]

theorem write_of_beyond {content : Content} {data : Block}
    (held : heap.content? address = some content)
    (beyond : content.bytes.length < offset + data.size) :
    write address offset data heap =
      .error (.outOfBounds address offset data.size content.bytes.length) heap := by
  obtain ⟨cell, found, rfl⟩ := content?_eq_some_iff.mp held
  have size : cell.content.bytes.length = cell.block.size := cell.block.bytes_length
  rw [size] at beyond ⊢
  unfold write
  rw [found]
  simp only
  rw [Block.write?_eq_none_iff.mpr beyond]

/-- Why an access to a part of a block is refused: nothing is live at the address, or what is live
there is too short. -/
inductive Refusal (heap : Heap) (address : Address) (offset length : Nat) : DeviceError → Prop
  | absent (absent : heap.content? address = none) :
      Refusal heap address offset length (.invalidPointer address)
  | beyond {content : Content} (held : heap.content? address = some content)
      (beyond : content.bytes.length < offset + length) :
      Refusal heap address offset length
        (.outOfBounds address offset length content.bytes.length)

/-- An access that succeeds wherever there is room, and gives back the state it was given where it
fails, fails exactly for these reasons. -/
theorem eq_error_iff_refusal {α σ : Type} {outcome : EStateM.Result DeviceError σ α}
    {state left : σ}
    (absent : heap.content? address = none → outcome = .error (.invalidPointer address) state)
    (beyond : ∀ content, heap.content? address = some content →
      content.bytes.length < offset + length →
        outcome = .error (.outOfBounds address offset length content.bytes.length) state)
    (within : ∀ content, heap.content? address = some content →
      offset + length ≤ content.bytes.length → ∃ value after, outcome = .ok value after) :
    outcome = .error cause left ↔ heap.Refusal address offset length cause ∧ left = state := by
  refine ⟨fun failed => ?_, fun ⟨refusal, same⟩ => ?_⟩
  · cases held : heap.content? address with
    | none =>
      rw [absent held] at failed
      cases failed
      exact ⟨.absent held, rfl⟩
    | some content =>
      by_cases room : offset + length ≤ content.bytes.length
      · obtain ⟨value, after, done⟩ := within content held room
        rw [done] at failed
        cases failed
      · rw [beyond content held (by omega)] at failed
        cases failed
        exact ⟨.beyond held (by omega), rfl⟩
  · subst same
    cases refusal with
    | absent nothing => exact absent nothing
    | beyond held short => exact beyond _ held short

theorem copyOut_eq_error_iff {out left : Block} :
    heap.copyOut address offset out = .error cause left ↔
      heap.Refusal address offset out.size cause ∧ left = out :=
  eq_error_iff_refusal (fun absent => copyOut_of_absent absent offset out)
    (fun _ held => copyOut_of_beyond held)
    fun _ held room => ⟨(), (copyOut_ok held offset out room).imp fun _ => And.left⟩

theorem read_eq_error_iff :
    read address offset length heap = .error cause after ↔
      heap.Refusal address offset length cause ∧ after = heap := by
  have copied : ∀ {left}, heap.copyOut address offset (.zeroed length) = .error cause left ↔
      heap.Refusal address offset length cause ∧ left = .zeroed length := by
    intro left
    rw [copyOut_eq_error_iff, Block.size_zeroed]
  unfold read
  constructor
  · intro failed
    split at failed
    · rename_i refused
      cases failed
      exact ⟨(copied.mp refused).1, rfl⟩
    · cases failed
  · rintro ⟨refusal, rfl⟩
    rw [copied.mpr ⟨refusal, rfl⟩]

theorem write_eq_error_iff {data : Block} :
    write address offset data heap = .error cause after ↔
      heap.Refusal address offset data.size cause ∧ after = heap :=
  eq_error_iff_refusal (fun absent => write_of_absent absent offset data)
    (fun _ held => write_of_beyond held) fun _ held room => ⟨(), write_ok held offset data room⟩

theorem free_eq_error_iff :
    free address heap = .error cause after ↔
      heap.content? address = none ∧ cause = .invalidPointer address ∧ after = heap := by
  unfold free
  rw [content?_eq_none_iff]
  cases heap.find? address with
  | none => simp [eq_comm]
  | some cell => simp

/-! ### Views -/

/-- Memory that the host sees is shown as it is, and no other. -/
theorem hostView_eq_some_iff {contents : Bytes} :
    (heap.hostView address).map Block.bytes = some contents ↔
      ∃ flags, heap.content? address = some ⟨.hostVisible flags, contents⟩ := by
  unfold hostView content?
  cases heap.find? address with
  | none => simp
  | some cell =>
    obtain ⟨residency, block⟩ := cell
    cases residency <;> simp [Cell.content]

/-! ### Accesses after a history -/

/-- Why the history refuses an access to a part of a block: no block stands at the address, or the
one that does is too short. -/
inductive Refuses (history : List Exchange) (address : Address) (offset length : Nat) :
    DeviceError → Prop
  | dead (dead : ∀ size residency since, ¬ Stands history address size residency since) :
      Refuses history address offset length (.invalidPointer address)
  | beyond {size : Nat} {residency : Residency} {since : List Exchange}
      (stands : Stands history address size residency since) (beyond : size < offset + length) :
      Refuses history address offset length (.outOfBounds address offset length size)

theorem Recounts.refusal_iff (recounts : Recounts history heap) :
    heap.Refusal address offset length cause ↔ Refuses history address offset length cause := by
  constructor
  · rintro (absent | @⟨⟨residency, contents⟩, held, beyond⟩)
    · exact .dead (recounts.content?_eq_none_iff.mp absent)
    · obtain ⟨size, since, stands, rfl⟩ := recounts.content?_eq_some_iff.mp held
      rw [lastBytes_length] at beyond ⊢
      exact .beyond stands beyond
  · rintro (dead | @⟨size, residency, since, stands, beyond⟩)
    · exact .absent (recounts.content?_eq_none_iff.mpr dead)
    · have held := recounts.stands address size residency since stands
      have length_eq := lastBytes_length since address 0 size
      have refusal : heap.Refusal address offset length _ :=
        .beyond held (by simpa using beyond)
      rwa [length_eq] at refusal

/-- What can be copied out of a heap into the buffer of a reader. -/
theorem Recounts.copyOut_iff (recounts : Recounts history heap) {out : Block} {contents : Bytes} :
    (∃ data, heap.copyOut address offset out = .ok () data ∧ data.bytes = contents) ↔
      ∃ size residency since, Stands history address size residency since ∧
        offset + out.size ≤ size ∧ contents = lastBytes since address offset out.size := by
  constructor
  · rintro ⟨data, done, rfl⟩
    obtain ⟨⟨residency, contents⟩, held, within, bytes⟩ := copyOut_inv done
    obtain ⟨size, since, stands, rfl⟩ := recounts.content?_eq_some_iff.mp held
    rw [lastBytes_length] at within
    rw [slice_lastBytes since address within] at bytes
    exact ⟨size, residency, since, stands, within, bytes⟩
  · rintro ⟨size, residency, since, stands, within, rfl⟩
    obtain ⟨data, done, bytes⟩ := copyOut_ok (recounts.stands address size residency since stands)
      offset out (by simpa using within)
    exact ⟨data, done, bytes.trans (slice_lastBytes since address within)⟩

/-- Reading copies into a buffer of zeros, and leaves the heap. -/
theorem read_eq_ok_iff {data : Block} :
    read address offset length heap = .ok data after ↔
      heap.copyOut address offset (.zeroed length) = .ok () data ∧ after = heap := by
  refine ⟨fun done => (read_eq_ok done).symm, ?_⟩
  rintro ⟨copied, rfl⟩
  unfold read
  rw [copied]

/-- **Accesses see the last writes.** After every history, a read or a write succeeds exactly if a
block stands at the address and has the part asked for; a read gives at each position the byte last
written there since that block was made, or zero; a host sees these bytes of the blocks that are
visible to it, and of no other. A request that fails changes neither the heap nor the buffer of the
reader, and says whether the address is dead or the part leaves the block. -/
theorem Run.accesses (run : Run base capacity history heap) :
    (∀ address offset length contents,
      (∃ data, read address offset length heap = .ok data heap ∧ data.bytes = contents) ↔
        ∃ size residency since, Stands history address size residency since ∧
          offset + length ≤ size ∧ contents = lastBytes since address offset length) ∧
    (∀ address offset out contents,
      (∃ data, heap.copyOut address offset out = .ok () data ∧ data.bytes = contents) ↔
        ∃ size residency since, Stands history address size residency since ∧
          offset + out.size ≤ size ∧ contents = lastBytes since address offset out.size) ∧
    (∀ address offset data, (∃ after, write address offset data heap = .ok () after) ↔
      ∃ size residency since, Stands history address size residency since ∧
        offset + data.size ≤ size) ∧
    (∀ address contents, (heap.hostView address).map Block.bytes = some contents ↔
      ∃ size flags since, Stands history address size (.hostVisible flags) since ∧
        contents = lastBytes since address 0 size) ∧
    (∀ request cause after, serve request heap = .error cause after → after = heap) ∧
    (∀ address offset length cause after, read address offset length heap = .error cause after →
      Refuses history address offset length cause ∧ after = heap) ∧
    (∀ address offset out cause left, heap.copyOut address offset out = .error cause left →
      Refuses history address offset out.size cause ∧ left = out) ∧
    (∀ address offset data cause after, write address offset data heap = .error cause after →
      Refuses history address offset data.size cause ∧ after = heap) ∧
    ∀ address cause after, free address heap = .error cause after →
      (∀ size residency since, ¬ Stands history address size residency since) ∧
        cause = .invalidPointer address ∧ after = heap := by
  have recounts := run.recounts
  refine ⟨fun address offset length contents => ?_,
    fun address offset out contents => recounts.copyOut_iff,
    fun address offset data => ⟨?_, ?_⟩, fun address contents => ?_,
    fun request cause after => serve_eq_error, fun address offset length cause after failed => ?_,
    fun address offset out cause left failed => ?_,
    fun address offset data cause after failed => ?_, fun address cause after failed => ?_⟩
  · simp only [read_eq_ok_iff, and_true, recounts.copyOut_iff, Block.size_zeroed]
  · rintro ⟨after, done⟩
    obtain ⟨⟨residency, contents⟩, held, within, _⟩ := content?_write done
    obtain ⟨size, since, stands, rfl⟩ := recounts.content?_eq_some_iff.mp held
    rw [lastBytes_length] at within
    exact ⟨size, residency, since, stands, within⟩
  · rintro ⟨size, residency, since, stands, within⟩
    exact write_ok (recounts.stands address size residency since stands) offset data
      (by simpa using within)
  · rw [hostView_eq_some_iff]
    simp only [recounts.content?_eq_some_iff]
    exact exists_comm
  · exact (read_eq_error_iff.mp failed).imp_left recounts.refusal_iff.mp
  · exact (copyOut_eq_error_iff.mp failed).imp_left recounts.refusal_iff.mp
  · exact (write_eq_error_iff.mp failed).imp_left recounts.refusal_iff.mp
  · exact (free_eq_error_iff.mp failed).imp_left recounts.content?_eq_none_iff.mp

/-- A block is made and written into; another one is made, filled and given back, and one more is
made where it does not lie; a part of the first is overwritten, and a write that leaves it is
refused. -/
def overlapping : List Request :=
  [.allocate 8 .deviceOnly, .allocate 4 (.hostVisible .mapped),
    .write ⟨4096⟩ 2 (.ofBytes [1, 2, 3]), .write ⟨4352⟩ 0 (.ofBytes [9, 9, 9, 9]),
    .free ⟨4352⟩, .allocate 4 .global, .write ⟨4608⟩ 0 (.ofBytes [8]),
    .write ⟨4096⟩ 4 (.ofBytes [7]), .write ⟨4096⟩ 7 (.ofBytes [5, 5])]

/-- The first block holds the last writes, and its last byte and the end behind it can be read but
no more; nothing is left of the second. -/
theorem accesses_overlapping :
    (∃ data, read ⟨4096⟩ 1 6 (askAll overlapping (start 4096 64)) =
        .ok data (askAll overlapping (start 4096 64)) ∧ data.bytes = [0, 1, 2, 7, 0, 0]) ∧
    (∃ data, read ⟨4096⟩ 8 0 (askAll overlapping (start 4096 64)) =
        .ok data (askAll overlapping (start 4096 64)) ∧ data.bytes = []) ∧
    (∀ cause after, read ⟨4096⟩ 8 1 (askAll overlapping (start 4096 64)) = .error cause after →
      Refuses (record overlapping (start 4096 64)) ⟨4096⟩ 8 1 cause) ∧
    ¬ ∃ after, write ⟨4352⟩ 0 (.ofBytes []) (askAll overlapping (start 4096 64)) =
      .ok () after := by
  have run := run_record 4096 64 overlapping
  obtain ⟨reads, _, writes, _, _, refused, _⟩ := Run.accesses run
  have stands : Stands (record overlapping (start 4096 64)) ⟨4096⟩ 8 .deviceOnly
      (record overlapping.tail ((start 4096 64).ask (.allocate 8 .deviceOnly)).2) :=
    ⟨⟨_, [], rfl, rfl⟩, by decide +kernel⟩
  refine ⟨(reads _ _ _ _).mpr ⟨8, _, _, stands, by decide, by decide +kernel⟩,
    (reads _ _ _ _).mpr ⟨8, _, _, stands, by decide, by decide +kernel⟩,
    fun cause after failed => (refused _ _ _ _ _ failed).1, fun written => ?_⟩
  obtain ⟨size, residency, since, alive, _⟩ := (writes _ _ _).mp written
  have gone : ((askAll overlapping (start 4096 64)).content? ⟨4352⟩).isNone = true := by
    decide +kernel
  exact run.recounts.content?_eq_none_iff.mp (Option.isNone_iff_eq_none.mp gone) _ _ _ alive

end ComputeHost.Heap
