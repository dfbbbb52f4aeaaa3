/-
**Transfers.**

A transfer that passes its checks reaches the memory of its buffer on the device of its queue.

* `transferTarget_eq_ok_iff` — when a transfer has a target.
* `readBuffer_run`, `writeBuffer_run` — a transfer with a target succeeds exactly if its range is
  live there.
-/

import ComputeHost.Proofs.Host.Buffers

namespace ComputeHost.Host

variable {host : Host SimulatedDevice} {transfer : Transfer} {length : Nat}

/-- The handles, the contexts, the range, the events and the blocking flag of a transfer are
good. -/
structure Accepts (host : Host SimulatedDevice) (transfer : Transfer) (length : Nat)
    (queue : Queue) (buffer : Buffer) : Prop where
  queued : host.registry.queues.get? transfer.queue = some queue
  named : host.registry.buffers.get? transfer.buffer = some buffer
  context : buffer.context = queue.context
  within : transfer.offset + length ≤ buffer.size
  waits : transfer.waits.check = .ok ()
  blocking : transfer.blocking = true

/-- A transfer has a target if it is acceptable, and its buffer is on the live device of its
queue. -/
theorem transferTarget_eq_ok_iff {device : DeviceHandle} {address : Address} :
    transferTarget transfer length host = .ok (device, address) ↔
      ∃ queue buffer, host.Accepts transfer length queue buffer ∧
        (host.backend? device).isSome ∧ queue.device = device ∧
        buffer.addressOn? device = some address := by
  unfold transferTarget
  simp only [Action.except_bind_eq_ok_iff, Action.refuse_eq_ok_iff, Arena.checked_eq_ok_iff]
  constructor
  · rintro ⟨queue, queued, buffer, named, context, within, ⟨⟩, waits, blocking, entry, live, there⟩
    cases place : buffer.addressOn? queue.device with
    | none =>
      rw [place] at there
      cases there
    | some found =>
      rw [place] at there
      cases there
      have accepts : host.Accepts transfer length queue buffer :=
        ⟨queued, named, not_not.mp context, by omega, waits, by simpa using blocking⟩
      refine ⟨queue, buffer, accepts, ?_, rfl, place⟩
      unfold backend?
      rw [live]
      rfl
  · rintro ⟨queue, buffer, ⟨queued, named, context, within, waits, blocking⟩, live, rfl, place⟩
    obtain ⟨backend, found⟩ := Option.isSome_iff_exists.mp live
    obtain ⟨entry, checked, _⟩ := checked_of_backend? found
    refine ⟨queue, queued, buffer, named, not_not.mpr context, by omega, (), waits,
      by simp [blocking], entry, Arena.checked_eq_ok_iff.mp checked, ?_⟩
    rw [place]
    rfl

/-- The memory at a target holds the range of a transfer. -/
def Covers (host : Host SimulatedDevice) (device : DeviceHandle) (address : Address)
    (transfer : Transfer) (length : Nat) (content : Content) : Prop :=
  host.content? device address = some content ∧ transfer.offset + length ≤ content.bytes.length

/-- **A read** gives the bytes at its target if its range is live there, and fails otherwise; either
way it is calm. -/
theorem readBuffer_run {device : DeviceHandle} {address : Address}
    (target : transferTarget transfer length host = .ok (device, address)) :
    ∃ after, host.Calm after ∧
      ((∃ content, host.Covers device address transfer length content ∧
          readBuffer transfer length host =
            .ok (content.bytes.slice transfer.offset length) after) ∨
        (∀ content, ¬ host.Covers device address transfer length content) ∧
          ∃ cause, readBuffer transfer length host = .error (.device cause) after) := by
  obtain ⟨_, _, _, live, _, _⟩ := transferTarget_eq_ok_iff.mp target
  obtain ⟨backend, found⟩ := Option.isSome_iff_exists.mp live
  have reading := SimulatedDevice.selected_read address transfer.offset length backend
  have calm : host.Calm (host.setBackend device { backend.visited with heap := backend.heap }) :=
    .of_across (.setBackend SimulatedDevice.Alike.refl found backend.alike_visited)
  refine ⟨_, calm, ?_⟩
  unfold readBuffer Covers
  rw [Action.bind_of_ok (check_of_ok target), content?_of_backend? found]
  cases read : Heap.read address transfer.offset length backend.heap with
  | ok data heap =>
    left
    obtain ⟨rfl, _⟩ := Heap.read_eq_ok read
    obtain ⟨content, holds, within, bytes⟩ := Heap.read_inv read
    rw [read] at reading
    refine ⟨content, ⟨holds, within⟩, ?_⟩
    rw [← bytes]
    exact Action.map_of_ok (onDevice_of_ok found reading)
  | error cause heap =>
    right
    obtain rfl := Heap.read_eq_error read
    rw [read] at reading
    refine ⟨fun content ⟨holds, within⟩ => ?_, cause,
      Action.map_of_error (onDevice_of_error found reading)⟩
    obtain ⟨data, done, _⟩ := Heap.read_ok holds _ _ within
    rw [done] at read
    cases read

/-- **A write** overwrites its range at its target if it is live there, and fails calmly
otherwise. -/
theorem writeBuffer_run {device : DeviceHandle} {address : Address} {data : Bytes}
    (target : transferTarget transfer data.length host = .ok (device, address)) :
    (∃ content after, host.Covers device address transfer data.length content ∧
      writeBuffer transfer data host = .ok () after ∧
      Across SimulatedDevice.Steady host after ∧
      ∀ handle place, after.content? handle place =
        if (handle, place) = (device, address) then
          some ⟨content.residency, content.bytes.splice transfer.offset data⟩
        else host.content? handle place) ∨
    (∀ content, ¬ host.Covers device address transfer data.length content) ∧
      ∃ cause after, writeBuffer transfer data host = .error (.device cause) after ∧
        host.Calm after := by
  obtain ⟨_, _, _, live, _, _⟩ := transferTarget_eq_ok_iff.mp target
  obtain ⟨backend, found⟩ := Option.isSome_iff_exists.mp live
  have writing := SimulatedDevice.selected_write address transfer.offset (.ofBytes data) backend
  unfold writeBuffer Covers
  rw [Action.bind_of_ok (check_of_ok target), content?_of_backend? found]
  cases wrote : Heap.write address transfer.offset (.ofBytes data) backend.heap with
  | ok _ heap =>
    left
    rw [wrote] at writing
    obtain ⟨content, holds, within, view⟩ := Heap.content?_write wrote
    rw [Block.size_ofBytes] at within
    refine ⟨content, _, ⟨holds, within⟩, onDevice_of_ok found writing, ?_, fun handle place => ?_⟩
    · refine .setBackend SimulatedDevice.Steady.refl found
        ⟨fun sound => sound.of_heap rfl (sound.ordered.write wrote)
          fun other bytes lives => ?_, rfl⟩
      by_cases here : other = address
      · subst here
        obtain rfl := Option.some.inj (lives.symm.trans holds)
        exact ⟨_, (view other).trans (if_pos rfl),
          Bytes.splice_length (by simpa using within)⟩
      · exact ⟨bytes, (view other).trans ((if_neg here).trans lives), rfl⟩
    · rw [content?_setBackend found]
      by_cases here : handle = device
      · subst here
        simp only [if_true, view, content?_of_backend? found, Prod.mk.injEq, true_and,
          Block.bytes_ofBytes]
      · simp [here]
  | error cause heap =>
    right
    obtain rfl := Heap.write_eq_error wrote
    rw [wrote] at writing
    refine ⟨fun content ⟨holds, within⟩ => ?_, cause, _, onDevice_of_error found writing,
      .of_across (.setBackend SimulatedDevice.Alike.refl found backend.alike_visited)⟩
    obtain ⟨heap, done⟩ := Heap.write_ok holds _ (.ofBytes data) (by simpa using within)
    rw [done] at wrote
    cases wrote

end ComputeHost.Host
