/-
**Migrations that fail.**

A migration that is refused before anything moved changes nothing. One that a device refuses in the
middle has freed what it moved already, and the buffers still name the old places: exactly these
places are lost (`Loses`), and with them the transfers that go there.

* `Run.migration_fails` — what a failed migration leaves, after every run.
* `Leaves.covers`, `Leaves.uncovered` — which ranges are there after it.
-/

import ComputeHost.Proofs.Host.Run

namespace ComputeHost.Host

variable {host after : Host SimulatedDevice} {source target handle : DeviceHandle}
  {address : Address} {error : HostError} {transfer : Transfer} {length : Nat}

/-- A migration that failed so has lost the place: a device refused it, and the target had taken the
allocation at that place of the source already. -/
def Loses (host : Host SimulatedDevice) (source target : DeviceHandle) (error : HostError)
    (handle : DeviceHandle) (address : Address) : Prop :=
  (∃ cause, error = .device cause) ∧ handle = source ∧ address ∈ host.displaced source target

/-- What a failed migration leaves: the objects, and everything live but what it lost. -/
structure Leaves (host : Host SimulatedDevice) (source target : DeviceHandle) (error : HostError)
    (after : Host SimulatedDevice) : Prop where
  buffers : after.registry.buffers = host.registry.buffers
  queues : after.registry.queues = host.registry.queues
  live : ∀ handle, (after.backend? handle).isSome = (host.backend? handle).isSome
  lost : ∀ handle address, host.Loses source target error handle address →
    after.content? handle address = none
  kept : ∀ handle address content, host.content? handle address = some content →
    ¬ host.Loses source target error handle address → after.content? handle address = some content

theorem leaves_of_failed (regular : host.Regular)
    (failed : step (.migrateDevice source target) host = (.error error, after)) :
    host.Leaves source target error after := by
  rcases migrateDevice_run regular source target with
    ⟨_, done⟩ | ⟨cause, later, refused, calm, same, other⟩ |
      ⟨requested, available, later, refused, differ, strands⟩ | ⟨moved, middle, _, _, done⟩
  · rw [step_of_ok (Action.map_of_ok done)] at failed
    cases failed
  · rw [step_of_error (Action.map_of_error refused)] at failed
    cases failed
    exact ⟨calm.buffers, calm.queues, calm.each.isSome_eq,
      fun handle address ⟨⟨cause, refusal⟩, _⟩ => absurd refusal (other cause),
      fun handle address content holds _ => (same handle address).trans holds⟩
  · rw [step_of_error (Action.map_of_error refused)] at failed
    cases failed
    have across := strands.across
    refine ⟨across.buffers, ?_, across.each.isSome_eq, ?_, ?_⟩
    · obtain ⟨_, rfl⟩ := across.rest
      rfl
    · rintro _ address ⟨_, rfl, member⟩
      rw [strands.left, if_pos member]
    · intro handle address content holds stays
      by_cases here : handle = source
      · subst here
        rw [strands.left, if_neg fun member => stays ⟨⟨_, rfl⟩, rfl, member⟩]
        exact holds
      · exact strands.kept handle address content here holds
  · rw [step_of_ok (Action.map_of_ok done)] at failed
    cases failed

/-! ### Transfers after a failed migration -/

/-- A transfer has the target that it had. -/
theorem Leaves.transferTarget_iff (leaves : host.Leaves source target error after)
    {device : DeviceHandle} :
    transferTarget transfer length after = .ok (device, address) ↔
      transferTarget transfer length host = .ok (device, address) := by
  rw [transferTarget_eq_ok_iff, transferTarget_eq_ok_iff, leaves.live]
  refine exists_congr fun queue => exists_congr fun buffer => and_congr_left fun _ => ?_
  exact ⟨fun accepts => { accepts with
      queued := leaves.queues ▸ accepts.queued, named := leaves.buffers ▸ accepts.named },
    fun accepts => { accepts with
      queued := leaves.queues ▸ accepts.queued, named := leaves.buffers ▸ accepts.named }⟩

/-- The range of a transfer is still there unless its place is lost. -/
theorem Leaves.covers (leaves : host.Leaves source target error after) {device : DeviceHandle}
    {content : Content} (covers : host.Covers device address transfer length content)
    (stays : ¬ host.Loses source target error device address) :
    after.Covers device address transfer length content :=
  ⟨leaves.kept device address content covers.1 stays, covers.2⟩

theorem Leaves.uncovered (leaves : host.Leaves source target error after) {device : DeviceHandle}
    (lost : host.Loses source target error device address) (content : Content) :
    ¬ after.Covers device address transfer length content := by
  rintro ⟨holds, _⟩
  rw [leaves.lost device address lost] at holds
  cases holds

/-- **What a failed migration leaves.** After every run, a migration that fails leaves the places of
all buffers as they were. What is live stays, but for the places that it has lost; so all of the
buffers keep their data exactly if none of their places is lost, and a transfer that would have
succeeded fails exactly if it goes to such a place. -/
theorem Run.migration_fails {history : List Exchange} (run : Run history host)
    (failed : step (.migrateDevice source target) host = (.error error, after)) :
    after.registry.buffers = host.registry.buffers ∧
    ((∀ buffer ∈ host.registry.buffers.objects, ∀ place ∈ buffer.places, ∀ content,
        host.content? place.1 place.2 = some content →
          after.content? place.1 place.2 = some content) ↔
      ∀ buffer ∈ host.registry.buffers.objects, ∀ place ∈ buffer.places,
        (host.content? place.1 place.2).isSome →
          ¬ host.Loses source target error place.1 place.2) ∧
    (∀ transfer length device address answer,
      transferTarget transfer length host = .ok (device, address) →
      (step (.readBuffer transfer length) host).1 = .ok answer →
        (host.Loses source target error device address →
          ∃ cause, (step (.readBuffer transfer length) after).1 = .error cause) ∧
        (¬ host.Loses source target error device address →
          (step (.readBuffer transfer length) after).1 = .ok answer)) ∧
    (∀ transfer data device address answer,
      transferTarget transfer data.length host = .ok (device, address) →
      (step (.writeBuffer transfer data) host).1 = .ok answer →
        (host.Loses source target error device address →
          ∃ cause, (step (.writeBuffer transfer data) after).1 = .error cause) ∧
        (¬ host.Loses source target error device address →
          (step (.writeBuffer transfer data) after).1 = .ok .nothing)) := by
  have leaves := leaves_of_failed run.regular failed
  refine ⟨leaves.buffers, ⟨fun intact buffer member place among live loses => ?_,
      fun spared buffer member place among content holds => ?_⟩,
    fun transfer length device address answer goes done => ⟨fun lost => ?_, fun stays => ?_⟩,
    fun transfer data device address answer goes done => ⟨fun lost => ?_, fun stays => ?_⟩⟩
  · obtain ⟨content, holds⟩ := Option.isSome_iff_exists.mp live
    have still := intact buffer member place among content holds
    rw [leaves.lost _ _ loses] at still
    cases still
  · exact leaves.kept _ _ content holds (spared buffer member place among (holds ▸ rfl))
  · exact readBuffer_of_uncovered (leaves.transferTarget_iff.mpr goes) (leaves.uncovered lost)
  · obtain ⟨device', address', content, goes', covers, rfl⟩ := readBuffer_eq_ok done
    rw [goes] at goes'
    cases goes'
    exact readBuffer_of_covers (leaves.transferTarget_iff.mpr goes) (leaves.covers covers stays)
  · exact writeBuffer_of_uncovered (leaves.transferTarget_iff.mpr goes) (leaves.uncovered lost)
  · obtain ⟨device', address', content, goes', covers⟩ := writeBuffer_eq_ok done
    rw [goes] at goes'
    cases goes'
    exact writeBuffer_of_covers (leaves.transferTarget_iff.mpr goes) (leaves.covers covers stays)

/-! ### A failure in the middle -/

/-- Two buffers of four bytes on the first device. -/
def crowded : List Call :=
  [.platformIds, .createContext [⟨0, 1⟩] false, .createQueue ⟨0, 1⟩ ⟨0, 1⟩ ⟨0⟩,
    .createBuffer ⟨0, 1⟩ ⟨.copyHostPtr, 4, some [1, 2, 3, 4]⟩,
    .createBuffer ⟨0, 1⟩ ⟨.copyHostPtr, 4, some [5, 6, 7, 8]⟩]

/-- The first of them. -/
def early : Transfer := { queue := ⟨0, 1⟩, buffer := ⟨0, 1⟩ }

theorem step_of_isRefusedMove (source target : DeviceHandle) (host : Host SimulatedDevice)
    (refused : (⟨.migrateDevice source target, (step (.migrateDevice source target) host).1⟩ :
      Exchange).isRefusedMove = true) :
    ∃ cause after, step (.migrateDevice source target) host = (.error (.device cause), after) := by
  cases outcome : step (.migrateDevice source target) host with
  | mk result after =>
    rw [outcome] at refused
    cases result with
    | ok answer => cases refused
    | error error =>
      cases error with
      | device cause => exact ⟨cause, after, rfl⟩
      | _ => cases refused

theorem eq_ok_of_toBool {ε α : Type} (result : Except ε α) (good : result.toBool = true) :
    ∃ value, result = .ok value := by
  cases result with
  | ok value => exact ⟨value, rfl⟩
  | error cause => cases good

theorem eq_ok_of_toOption {ε α : Type} (result : Except ε α) (value : α)
    (good : result.toOption = some value) : result = .ok value := by
  cases result with
  | ok found => exact congrArg Except.ok (Option.some.inj good)
  | error cause => cases good

/-- The target has room for one of two buffers: the first one is lost, and can no longer be read. -/
theorem migration_fails_crowded :
    ∃ error after, step (.migrateDevice ⟨0, 1⟩ ⟨1, 1⟩) (run crowded (twin 1024 6)).2 =
        (.error error, after) ∧
      after.registry.buffers = (run crowded (twin 1024 6)).2.registry.buffers ∧
      (∃ answer, (step (.readBuffer early 4) (run crowded (twin 1024 6)).2).1 = .ok answer) ∧
      ∃ cause, (step (.readBuffer early 4) after).1 = .error cause := by
  obtain ⟨cause, after, failed⟩ := step_of_isRefusedMove ⟨0, 1⟩ ⟨1, 1⟩
    (run crowded (twin 1024 6)).2 (by decide +kernel)
  obtain ⟨answer, reads⟩ := eq_ok_of_toBool
    (step (.readBuffer early 4) (run crowded (twin 1024 6)).2).1 (by decide +kernel)
  have goes := eq_ok_of_toOption
    (transferTarget early 4 (run crowded (twin 1024 6)).2) (⟨0, 1⟩, ⟨0x100000000⟩)
    (by decide +kernel)
  have moved : (⟨0x100000000⟩ : Address) ∈
      (run crowded (twin 1024 6)).2.displaced ⟨0, 1⟩ ⟨1, 1⟩ := by decide +kernel
  have leaves := Run.migration_fails (run_twin 1024 6 crowded) failed
  exact ⟨_, after, failed, leaves.1, ⟨answer, reads⟩,
    (leaves.2.2.1 early 4 _ _ answer goes reads).1 ⟨⟨cause, rfl⟩, rfl, moved⟩⟩

/-- Migrations that fail are not all or nothing. -/
theorem not_all_or_nothing :
    ¬ ∀ (history : List Exchange) (host after : Host SimulatedDevice)
        (source target : DeviceHandle) (error : HostError) (transfer : Transfer) (length : Nat)
        (answer : Answer), Run history host →
      step (.migrateDevice source target) host = (.error error, after) →
      (step (.readBuffer transfer length) host).1 = .ok answer →
      (step (.readBuffer transfer length) after).1 = .ok answer := by
  intro claim
  obtain ⟨cause, after, failed⟩ := step_of_isRefusedMove ⟨0, 1⟩ ⟨1, 1⟩
    (run crowded (twin 1024 6)).2 (by decide +kernel)
  obtain ⟨answer, reads⟩ := eq_ok_of_toBool
    (step (.readBuffer early 4) (run crowded (twin 1024 6)).2).1 (by decide +kernel)
  have still := claim _ _ after _ _ _ early 4 answer (run_twin 1024 6 crowded) failed reads
  have unreadable : (step (.readBuffer early 4) (step (.migrateDevice ⟨0, 1⟩ ⟨1, 1⟩)
      (run crowded (twin 1024 6)).2).2).1.toBool = false := by decide +kernel
  rw [failed, still] at unreadable
  cases unreadable

end ComputeHost.Host
