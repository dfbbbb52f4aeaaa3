/-
**Migrating a device.**

A migration refuses calmly, fails in the middle and leaves the buffers as they were, or moves all
data of one device to another and points the buffers there (`migrateDevice_run`).

* `Strands` — what a migration that fails in the middle has done.
* `Migrated` — where the data is after a migration that succeeds.
-/

import ComputeHost.Proofs.Host.Buffers

namespace ComputeHost.Host

variable {host after : Host SimulatedDevice} {source target : DeviceHandle}
  {leaving entering : SimulatedDevice} {pair : DevicePair SimulatedDevice}

/-! ### Two devices -/

/-- The host with both devices of a pair replaced. -/
def setPair (host : Host SimulatedDevice) (source target : DeviceHandle)
    (pair : DevicePair SimulatedDevice) : Host SimulatedDevice :=
  (host.setBackend source pair.source).setBackend target pair.target

theorem backend?_setPair (differ : source ≠ target) (leave : host.backend? source = some leaving)
    (enter : host.backend? target = some entering) (handle : DeviceHandle) :
    (host.setPair source target pair).backend? handle =
      if handle = target then some pair.target
      else if handle = source then some pair.source
      else host.backend? handle := by
  unfold setPair
  rw [backend?_setBackend, backend?_setBackend, backend?_setBackend, if_neg (Ne.symm differ),
    enter, leave]
  rfl

theorem Across.setPair {relation : SimulatedDevice → SimulatedDevice → Prop}
    (reflexive : ∀ device, relation device device)
    (transitive : ∀ one two three, relation one two → relation two three → relation one three)
    (differ : source ≠ target) (leave : host.backend? source = some leaving)
    (enter : host.backend? target = some entering) (first : relation leaving pair.source)
    (second : relation entering pair.target) :
    Across relation host (host.setPair source target pair) := by
  have enter' : (host.setBackend source pair.source).backend? target = some entering := by
    rw [backend?_setBackend, if_neg (Ne.symm differ), enter]
  exact (Across.setBackend reflexive leave first).trans transitive
    (.setBackend reflexive enter' second)

/-- Two different live devices make a pair. -/
theorem migratePair_eq (differ : source ≠ target) (leave : host.backend? source = some leaving)
    (enter : host.backend? target = some entering) (modules : List KernelModule) :
    migratePair source target modules host =
      match Migration.migrate modules ⟨leaving, entering⟩ with
      | .ok moved pair => .ok moved (host.setPair source target pair)
      | .error error pair => .error error (host.setPair source target pair) := by
  obtain ⟨one, live, rfl⟩ := Option.map_eq_some_iff.mp leave
  obtain ⟨other, alive, rfl⟩ := Option.map_eq_some_iff.mp enter
  have pairing : host.registry.devices.getPair? source target = some (one, other) :=
    Arena.getPair?_eq_some_iff.mpr ⟨differ, live, alive⟩
  unfold migratePair
  rw [pairing]
  simp only
  cases Migration.migrate modules ⟨one.backend, other.backend⟩ <;> rfl

/-- A migration that passes its checks has two different live devices. -/
theorem pair_of_checkMigration {δ : Type} [DeviceDriver δ] {host : Host δ}
    {source target : DeviceHandle} (passes : checkMigration source target host = .ok ()) :
    source ≠ target ∧ ∃ leaving entering, host.backend? source = some leaving ∧
      host.backend? target = some entering := by
  unfold checkMigration at passes
  simp only [Action.except_bind_eq_ok_iff, Action.discard_eq_ok_iff] at passes
  obtain ⟨_, ⟨one, live⟩, _, ⟨other, alive⟩, apart⟩ := passes
  refine ⟨fun same => ?_, _, _, backend?_of_checked live, backend?_of_checked alive⟩
  rw [if_pos same] at apart
  cases apart

/-- A migration that does not pass its checks is not refused by a device. -/
theorem checkMigration_error {error : HostError}
    (fails : checkMigration source target host = .error error) (cause : DeviceError) :
    error ≠ .device cause := by
  rintro rfl
  unfold checkMigration Arena.checked at fails
  cases leave : host.registry.devices.get? source with
  | none =>
    rw [leave] at fails
    cases fails
  | some one =>
    cases enter : host.registry.devices.get? target with
    | none =>
      rw [leave, enter] at fails
      cases fails
    | some other =>
      rw [leave, enter] at fails
      have last : (if source = target then
          throw (.invalidValue "cannot migrate a device onto itself")
        else pure () : Except HostError Unit) = .error (.device cause) := fails
      split at last <;> cases last

/-! ### The copies that are not needed -/

/-- What is given back on the target: the copies for buffers that have a place there. -/
def copies (host : Host SimulatedDevice) (source target : DeviceHandle) (moved : AddressMap) :
    List Address :=
  host.registry.buffers.objects.filterMap fun buffer => (buffer.relocated source target moved).2

/-- The host with its buffers pointed at their new places. -/
def repointed (host : Host SimulatedDevice) (source target : DeviceHandle) (moved : AddressMap) :
    Host SimulatedDevice :=
  { host with
    registry :=
      { host.registry with
        buffers := host.registry.buffers.map fun buffer =>
          (buffer.relocated source target moved).1 } }

theorem mem_of_mem_copies {moved : AddressMap} {address : Address}
    (member : address ∈ host.copies source target moved) : address ∈ moved.map Prod.snd := by
  obtain ⟨buffer, _, spare⟩ := List.mem_filterMap.mp member
  unfold Buffer.relocated at spare
  split at spare
  · cases spare
  · split at spare
    · cases spare
    · rename_i new found
      simp only at spare
      split at spare
      · cases spare
        exact List.mem_map.mpr ⟨_, mem_of_lookup found, rfl⟩
      · cases spare

/-- Pointing the buffers at their new places gives back the copies that are not needed. -/
theorem relocateBuffers_run {moved : AddressMap}
    (sound : ∀ handle device, host.backend? handle = some device → device.Sound)
    (enter : host.backend? target = some entering)
    (data : ∀ address ∈ host.copies source target moved, ∀ bytes,
      entering.heap.content? address ≠ some ⟨.global, bytes⟩) :
    ∃ middle, Across SimulatedDevice.Steady host middle ∧
      relocateBuffers source target moved host =
        .ok () (middle.repointed source target moved) ∧
      ∀ handle address, middle.content? handle address =
        if handle = target ∧ address ∈ host.copies source target moved then none
        else host.content? handle address := by
  have got : (get : HostAction SimulatedDevice (Host SimulatedDevice)) host = .ok host host := rfl
  have registered : register (fun registry => ((), { registry with
      buffers := registry.buffers.map fun buffer =>
        (buffer.relocated source target moved).1 })) host =
      .ok () (host.repointed source target moved) := rfl
  unfold relocateBuffers
  rw [Action.bind_of_ok got, Action.bind_of_ok registered]
  show ∃ middle, _ ∧ (if (!(host.copies source target moved).isEmpty) = true then
    attempt (onDevice target .device (freeEach (host.copies source target moved)))
    else pure ()) (host.repointed source target moved) = _ ∧ _
  by_cases none_spare : host.copies source target moved = []
  · refine ⟨host, .refl SimulatedDevice.Steady.refl host, ?_, fun handle address => ?_⟩
    · rw [none_spare]
      rfl
    · rw [none_spare]
      simp
  · have some_spare : (!(host.copies source target moved).isEmpty) = true := by
      simpa using none_spare
    obtain ⟨changed, done, order, modules, view⟩ :=
      Migration.selected_freeEach (sound target entering enter) data
    refine ⟨host.setBackend target changed, .setBackend SimulatedDevice.Steady.refl enter
      ⟨fun _ => order, modules⟩, ?_, fun handle address => ?_⟩
    · rw [if_pos some_spare]
      unfold attempt
      have enter' : (host.repointed source target moved).backend? target = some entering := enter
      rw [onDevice_of_ok enter' done]
      rfl
    · rw [content?_setBackend enter]
      by_cases here : handle = target
      · subst here
        simp only [if_true, true_and, view, content?_of_backend? enter]
      · simp [here]

/-! ### The whole call -/

/-- What a migration has done when it fails in the middle: some of the source is lost, and nothing
that was live elsewhere. -/
structure Strands (host : Host SimulatedDevice) (source : DeviceHandle) (lost : List Address)
    (after : Host SimulatedDevice) : Prop where
  across : Across SimulatedDevice.Steady host after
  left : ∀ address, after.content? source address =
    if address ∈ lost then none else host.content? source address
  kept : ∀ handle address content, handle ≠ source → host.content? handle address = some content →
    after.content? handle address = some content

/-- The addresses of the source whose allocations a migration moves, in order. -/
def displaced (host : Host SimulatedDevice) (source target : DeviceHandle) : List Address :=
  match host.backend? source, host.backend? target with
  | some leaving, some entering =>
    (Migration.listed ⟨leaving, entering⟩).map Allocation.address
  | _, _ => []

theorem displaced_eq (leave : host.backend? source = some leaving)
    (enter : host.backend? target = some entering) :
    host.displaced source target =
      (Migration.listed ⟨leaving, entering⟩).map Allocation.address := by
  unfold displaced
  rw [leave, enter]

/-- Where the data is after a migration, before the buffers are looked at. -/
structure Migrated (host : Host SimulatedDevice) (source target : DeviceHandle)
    (moved : AddressMap) (middle : Host SimulatedDevice) : Prop where
  across : Across SimulatedDevice.Steady host middle
  /-- The entries are for the data of the source. -/
  keys : ∀ address, address ∈ moved.map Prod.fst ↔
    ∃ content, host.data? source address = some content
  once : (moved.map Prod.fst).Nodup
  distinct : (moved.map Prod.snd).Nodup
  fresh : ∀ address ∈ moved.map Prod.snd, host.data? target address = none
  emptied : ∀ address, middle.data? source address = none
  freed : ∀ address ∈ host.copies source target moved, middle.data? target address = none
  arrived : ∀ entry ∈ moved, entry.2 ∉ host.copies source target moved →
    middle.data? target entry.2 = host.data? source entry.1
  stayed : ∀ address, address ∉ moved.map Prod.snd →
    middle.data? target address = host.data? target address
  elsewhere : ∀ handle address, handle ≠ source → handle ≠ target →
    middle.data? handle address = host.data? handle address

/-- Replacing devices by what they are is calm. -/
theorem Calm.setPair_same (differ : source ≠ target) (leave : host.backend? source = some leaving)
    (enter : host.backend? target = some entering) :
    host.Calm (host.setPair source target ⟨leaving, entering⟩) :=
  .of_across (.setPair SimulatedDevice.Alike.refl (fun _ _ _ => SimulatedDevice.Alike.trans) differ
    leave enter (.refl leaving) (.refl entering))

theorem content?_setPair_same (differ : source ≠ target)
    (leave : host.backend? source = some leaving) (enter : host.backend? target = some entering)
    (handle : DeviceHandle) (address : Address) :
    (host.setPair source target ⟨leaving, entering⟩).content? handle address =
      host.content? handle address := by
  unfold content?
  rw [backend?_setPair differ leave enter]
  split
  · rename_i here
    rw [here, enter]
  · split
    · rename_i here
      rw [here, leave]
    · rfl

theorem Strands.of_moved (differ : source ≠ target) (leave : host.backend? source = some leaving)
    (enter : host.backend? target = some entering) {moved : AddressMap}
    (run : Migration.Moved ⟨leaving, entering⟩ moved pair) (sound : pair.source.Sound)
    (sound' : pair.target.Sound) (order : entering.Sound) :
    Strands host source (moved.map Prod.fst) (host.setPair source target pair) := by
  refine ⟨.setPair SimulatedDevice.Steady.refl (fun _ _ _ => SimulatedDevice.Steady.trans) differ
      leave enter ⟨fun _ => sound, run.sourceModules⟩ ⟨fun _ => sound', run.targetModules⟩,
    fun address => ?_, fun handle address content other live => ?_⟩
  · have here : (host.setPair source target pair).backend? source = some pair.source := by
      rw [backend?_setPair differ leave enter, if_neg differ, if_pos rfl]
    rw [content?_of_backend? here, content?_of_backend? leave, run.left]
  · by_cases there : handle = target
    · subst there
      have here : (host.setPair source handle pair).backend? handle = some pair.target := by
        rw [backend?_setPair differ leave enter, if_pos rfl]
      rw [content?_of_backend? enter] at live
      rw [content?_of_backend? here, run.stayed, live]
      intro member
      exact absurd (run.fresh address member) (by
        have below := order.ordered.lt_next live
        simp only
        omega)
    · unfold content?
      rw [backend?_setPair differ leave enter, if_neg there, if_neg other]
      exact live

/-- The data after a migration, and after the spare copies were given back. -/
theorem Migrated.of_shifted (differ : source ≠ target)
    (leave : host.backend? source = some leaving) (enter : host.backend? target = some entering)
    {moved : AddressMap} (run : Migration.Shifted ⟨leaving, entering⟩ moved pair)
    {middle : Host SimulatedDevice}
    (across : Across SimulatedDevice.Steady (host.setPair source target pair) middle)
    (view : ∀ handle address, middle.content? handle address =
      if handle = target ∧ address ∈ host.copies source target moved then none
      else (host.setPair source target pair).content? handle address) :
    Migrated host source target moved middle := by
  have here : (host.setPair source target pair).backend? source = some pair.source := by
    rw [backend?_setPair differ leave enter, if_neg differ, if_pos rfl]
  have there : (host.setPair source target pair).backend? target = some pair.target := by
    rw [backend?_setPair differ leave enter, if_pos rfl]
  have same : ∀ handle address, ¬ (handle = target ∧ address ∈ host.copies source target moved) →
      middle.data? handle address = (host.setPair source target pair).data? handle address :=
    fun handle address kept => data?_eq_of_content?_eq (by rw [view, if_neg kept])
  refine
    { across := (Across.setPair SimulatedDevice.Steady.refl
        (fun _ _ _ => SimulatedDevice.Steady.trans) differ leave enter
        ⟨fun _ => run.source, run.sourceModules⟩
        ⟨fun _ => run.target, run.targetModules⟩).trans
          (fun _ _ _ => SimulatedDevice.Steady.trans) across
      keys := fun address => ?_
      once := run.once
      distinct := run.distinct
      fresh := fun address member => ?_
      emptied := fun address => ?_
      freed := fun address member => ?_
      arrived := fun entry member kept => ?_
      stayed := fun address absent => ?_
      elsewhere := fun handle address other another => ?_ }
  · rw [run.keys, data?_of_backend? leave]
  · rw [data?_of_backend? enter]
    exact run.fresh address member
  · rw [same source address fun both => differ both.1, data?_of_backend? here]
    exact run.emptied address
  · refine Option.eq_none_iff_forall_ne_some.mpr fun content holds => ?_
    have live := (data?_eq_some_iff.mp holds).1
    rw [view, if_pos ⟨rfl, member⟩] at live
    cases live
  · rw [same target entry.2 fun both => kept both.2, data?_of_backend? there,
      data?_of_backend? leave]
    exact run.arrived entry member
  · rw [same target address fun both => absent (mem_of_mem_copies both.2),
      data?_of_backend? there, data?_of_backend? enter]
    exact run.stayed address absent
  · rw [same handle address fun both => another both.1]
    unfold data?
    rw [backend?_setPair differ leave enter, if_neg another, if_neg other]

/-- **A migration** does nothing, refuses calmly, fails in the middle, or moves all data and points
the buffers at it. -/
theorem migrateDevice_run (regular : host.Regular) (source target : DeviceHandle) :
    (host.isEnumerated = false ∧ migrateDevice source target host = .ok [] host) ∨
    (∃ error after, migrateDevice source target host = .error error after ∧ host.Calm after ∧
      (∀ handle address, after.content? handle address = host.content? handle address) ∧
      ∀ cause, error ≠ .device cause) ∨
    (∃ requested available after,
      migrateDevice source target host =
        .error (.device (.outOfMemory requested available)) after ∧
      source ≠ target ∧ Strands host source (host.displaced source target) after) ∨
    ∃ moved middle, source ≠ target ∧ Migrated host source target moved middle ∧
      migrateDevice source target host = .ok moved (middle.repointed source target moved) := by
  have got : (get : HostAction SimulatedDevice (Host SimulatedDevice)) host = .ok host host := rfl
  unfold migrateDevice
  rw [Action.bind_of_ok got]
  cases listed : host.isEnumerated with
  | false => exact .inl ⟨rfl, rfl⟩
  | true =>
    right
    rw [if_neg (by decide)]
    cases passes : checkMigration source target host with
    | error error =>
      left
      exact ⟨error, host, Action.bind_of_error (check_of_error passes), .refl host,
        fun _ _ => rfl, checkMigration_error passes⟩
    | ok done =>
      obtain ⟨differ, leaving, entering, leave, enter⟩ := pair_of_checkMigration passes
      rw [Action.bind_of_ok (check_of_ok passes)]
      have source_sound : (DevicePair.mk leaving entering).source.Sound :=
        regular.sound source leaving leave
      have target_sound : (DevicePair.mk leaving entering).target.Sound :=
        regular.sound target entering enter
      have pairing := migratePair_eq differ leave enter (host.modules.loadedOn source)
      rcases Migration.migrate_run source_sound target_sound (host.modules.loadedOn source) with
        ⟨error, missing, failed⟩ | ⟨_, _, ⟨_, moved, pair, requested, available, failed, run,
          sound, sound', lost⟩ | ⟨_, moved, pair, done, run⟩⟩
      · left
        obtain ⟨reason, rfl⟩ := Migration.storagePairs_error missing
        rw [failed] at pairing
        exact ⟨_, _, Action.bind_of_error pairing, .setPair_same differ leave enter,
          content?_setPair_same differ leave enter, nofun⟩
      · right
        left
        rw [failed] at pairing
        refine ⟨requested, available, _, Action.bind_of_error pairing, differ, ?_⟩
        rw [displaced_eq leave enter, ← lost]
        exact .of_moved differ leave enter run sound sound' target_sound
      · right
        right
        rw [done] at pairing
        have across : Across SimulatedDevice.Steady host (host.setPair source target pair) :=
          .setPair SimulatedDevice.Steady.refl (fun _ _ _ => SimulatedDevice.Steady.trans) differ
            leave enter ⟨fun _ => run.source, run.sourceModules⟩
            ⟨fun _ => run.target, run.targetModules⟩
        have there : (host.setPair source target pair).backend? target = some pair.target := by
          rw [backend?_setPair differ leave enter, if_pos rfl]
        have data : ∀ address ∈ (host.setPair source target pair).copies source target moved,
            ∀ bytes, pair.target.heap.content? address ≠ some ⟨.global, bytes⟩ := by
          -- what has arrived on the target is data
          intro address member bytes live
          obtain ⟨entry, among, rfl⟩ := List.mem_map.mp (mem_of_mem_copies member)
          obtain ⟨content, held⟩ := (run.keys entry.1).mp (List.mem_map_of_mem among)
          obtain ⟨same, kind⟩ := Heap.data?_eq_some_iff.mp ((run.arrived entry among).trans held)
          obtain rfl := Option.some.inj (live.symm.trans same)
          exact kind rfl
        obtain ⟨middle, more, ran, view⟩ :=
          relocateBuffers_run (across.sound regular.sound) there data
        exact ⟨moved, middle, differ, .of_shifted differ leave enter run more view,
          (Action.bind_of_ok pairing).trans (Action.bind_of_ok ran)⟩

end ComputeHost.Host
