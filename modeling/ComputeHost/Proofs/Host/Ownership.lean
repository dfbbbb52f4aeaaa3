/-
**Buffers own the data.**

While no migration is refused by a device, the places of the buffers and the data on the devices
are one to one: nothing leaks, no place dangles, and no two buffers share memory.

* `Owned` — the invariant, in terms of what is live where.
* `Transition.owned` — one call keeps it, unless it strands a migration.
* `Run.matched` — for whole runs, the allocations that each device lists are exactly the places of
  the buffers there.
-/

import ComputeHost.Proofs.Host.Run
import Mathlib.Data.List.Pairwise

namespace ComputeHost

/-- Who sees the memory of the buffer. -/
def Buffer.residency (buffer : Buffer) : Residency :=
  SimulatedDevice.bufferResidency (buffer.flags.contains .allocHostPtr)

/-! ### Buffers that move -/

section

variable {buffer : Buffer} {source target device : DeviceHandle} {moved : AddressMap}
  {address : Address}

/-- Where no device comes twice, the places of a buffer are its addresses. -/
theorem Buffer.mem_places (single : (buffer.places.map Prod.fst).Nodup) :
    (device, address) ∈ buffer.places ↔ buffer.addressOn? device = some address :=
  (lookup_eq_some_iff_mem single).symm

/-- The places but those on one device. -/
theorem lookup_eraseP (source device : DeviceHandle) {places : List (DeviceHandle × Address)}
    (single : (places.map Prod.fst).Nodup) :
    (places.eraseP fun place => place.1 == source).lookup device =
      if device = source then none else places.lookup device := by
  induction places with
  | nil => simp
  | cons place rest ih =>
    rw [List.map_cons, List.nodup_cons] at single
    by_cases here : place.1 = source
    · rw [List.eraseP_cons_of_pos (by simpa using here), List.lookup_cons]
      by_cases same : device = source
      · rw [if_pos same, same, ← here]
        exact lookup_eq_none_iff_not_mem_keys.mpr single.1
      · have differ : (device == place.1) = false := by simpa [here] using same
        rw [if_neg same, differ]
    · rw [List.eraseP_cons_of_neg (by simpa using here), List.lookup_cons, List.lookup_cons,
        ih single.2]
      by_cases same : device = source
      · have differ : (device == place.1) = false := by simpa [same] using Ne.symm here
        simp only [differ, if_pos same]
      · simp only [if_neg same]

/-- Where a buffer is after a move: it left the source, and the copy is on the target unless the
buffer had a place there. -/
theorem Buffer.addressOn?_relocated (single : (buffer.places.map Prod.fst).Nodup)
    (differ : source ≠ target) :
    (buffer.relocated source target moved).1.addressOn? device =
      if device = source then none
      else (buffer.addressOn? device).or
        (if device = target then (buffer.addressOn? source).bind fun old => moved.lookup old
        else none) := by
  unfold relocated
  cases here : buffer.addressOn? source with
  | none =>
    by_cases same : device = source
    · rw [if_pos same, same]
      exact here
    · simp [same]
  | some old =>
    have erased := lookup_eraseP source device single
    have there := lookup_eraseP source target single
    rw [if_neg (Ne.symm differ)] at there
    simp only [Option.bind_some]
    cases moved.lookup old with
    | none => simpa [addressOn?] using erased
    | some new =>
      simp only
      rw [there]
      cases kept : buffer.places.lookup target with
      | some held =>
        by_cases same : device = target
        · subst same
          simp [addressOn?, erased, kept, Ne.symm differ]
        · simpa [addressOn?, same] using erased
      | none =>
        by_cases same : device = target
        · subst same
          simp [addressOn?, erased, kept, Ne.symm differ, List.lookup_append]
        · have other : (device == target) = false := by simpa using same
          simp [addressOn?, erased, same, other, List.lookup_append, List.lookup_cons]

/-- A move changes nothing of a buffer but its places. -/
theorem Buffer.relocated_eq : (buffer.relocated source target moved).1 =
    { buffer with places := (buffer.relocated source target moved).1.places } := by
  unfold relocated
  split
  · rfl
  · split
    · rfl
    · simp only
      split <;> rfl

/-- The copy that a buffer does not need. -/
theorem Buffer.spare_relocated (single : (buffer.places.map Prod.fst).Nodup)
    (differ : source ≠ target) :
    (buffer.relocated source target moved).2 =
      if (buffer.addressOn? target).isSome then
        (buffer.addressOn? source).bind fun old => moved.lookup old
      else none := by
  unfold relocated
  cases here : buffer.addressOn? source with
  | none => simp
  | some old =>
    have there := lookup_eraseP source target single
    rw [if_neg (Ne.symm differ)] at there
    simp only [Option.bind_some]
    cases moved.lookup old with
    | none => simp
    | some new =>
      simp only
      rw [there]
      unfold addressOn?
      split <;> rfl

theorem Buffer.single_relocated (single : (buffer.places.map Prod.fst).Nodup) :
    ((buffer.relocated source target moved).1.places.map Prod.fst).Nodup := by
  have erased : ((buffer.places.eraseP fun place => place.1 == source).map Prod.fst).Nodup :=
    single.sublist (List.eraseP_sublist.map Prod.fst)
  unfold relocated
  split
  · exact single
  · split
    · exact erased
    · simp only
      split
      · exact erased
      · rename_i absent
        rw [List.map_append, List.map_singleton]
        refine List.nodup_append.mpr
          ⟨erased, List.nodup_singleton _, fun one member other last => ?_⟩
        obtain rfl := List.mem_singleton.mp last
        rintro rfl
        exact absent (lookup_isSome_iff_mem_keys.mpr member)

end

namespace Host

variable {host before middle after : Host SimulatedDevice} {history : List Exchange}

/-! ### The invariant -/

/-- The buffers own the data, each its own. -/
structure Owned (host : Host SimulatedDevice) : Prop where
  /-- A buffer has one place on a device. -/
  single : ∀ buffer ∈ host.registry.buffers.objects, (buffer.places.map Prod.fst).Nodup
  /-- At every place of a buffer there is data of its size, seen by whom it asked for. -/
  placed : ∀ buffer ∈ host.registry.buffers.objects, ∀ handle address,
    buffer.addressOn? handle = some address → ∃ bytes,
      host.data? handle address = some ⟨buffer.residency, bytes⟩ ∧ bytes.length = buffer.size
  /-- No two buffers have a place in common. -/
  apart : host.registry.buffers.objects.Pairwise fun one other => ∀ handle address,
    one.addressOn? handle = some address → other.addressOn? handle ≠ some address
  /-- All data is at a place of a buffer. -/
  covered : ∀ handle address content, host.data? handle address = some content →
    ∃ buffer ∈ host.registry.buffers.objects, buffer.addressOn? handle = some address

/-- Buffers with a place in common are the same. -/
theorem Owned.eq_of_place (owned : host.Owned) {one other : Buffer}
    (member : one ∈ host.registry.buffers.objects) (among : other ∈ host.registry.buffers.objects)
    {handle : DeviceHandle} {address : Address} (here : one.addressOn? handle = some address)
    (there : other.addressOn? handle = some address) : one = other := by
  by_contra differ
  have symmetric : Std.Symm fun one other : Buffer => ∀ handle address,
      one.addressOn? handle = some address → other.addressOn? handle ≠ some address :=
    ⟨fun _ _ apart handle address here there => apart handle address there here⟩
  exact owned.apart.forall member among differ handle address here there

theorem Owned.of_eq (owned : before.Owned)
    (buffers : after.registry.buffers = before.registry.buffers)
    (data : ∀ handle address, after.data? handle address = before.data? handle address) :
    after.Owned := by
  constructor
  · rw [buffers]
    exact owned.single
  · simp only [buffers, data]
    exact owned.placed
  · rw [buffers]
    exact owned.apart
  · simp only [buffers, data]
    exact owned.covered

theorem Owned.calm (owned : before.Owned) (calm : before.Calm after) : after.Owned :=
  owned.of_eq calm.buffers calm.each.data?_eq

/-! ### Making a buffer -/

/-- What a buffer owns is not at a place where nothing was live. -/
theorem Owned.not_mem_fresh (owned : host.Owned) {buffer : Buffer}
    (member : buffer ∈ host.registry.buffers.objects) {handle : DeviceHandle} {address : Address}
    (here : buffer.addressOn? handle = some address) {places : List (DeviceHandle × Address)}
    (fresh : ∀ place ∈ places, host.content? place.1 place.2 = none) :
    (handle, address) ∉ places := by
  intro among
  obtain ⟨bytes, holds, _⟩ := owned.placed buffer member handle address here
  have live := (data?_eq_some_iff.mp holds).1
  rw [fresh _ among] at live
  cases live

/-- A new buffer owns what was allocated for it. -/
theorem Owned.withBuffer (owned : before.Owned) (packed : before.registry.buffers.Packed)
    (buffers : middle.registry.buffers = before.registry.buffers) {buffer : Buffer}
    {contents : Bytes} (whole : contents.length = buffer.size)
    (single : (buffer.places.map Prod.fst).Nodup)
    (fresh : ∀ place ∈ buffer.places, before.content? place.1 place.2 = none)
    (view : ∀ handle address, middle.content? handle address =
      if (handle, address) ∈ buffer.places then some ⟨buffer.residency, contents⟩
      else before.content? handle address) :
    (middle.withBuffer buffer).Owned := by
  have objects : (middle.withBuffer buffer).registry.buffers.objects =
      before.registry.buffers.objects ++ [buffer] := by
    show (middle.registry.buffers.insert buffer).2.objects = _
    rw [buffers, packed.objects_insert]
  have kept : ∀ handle address, (handle, address) ∉ buffer.places →
      (middle.withBuffer buffer).data? handle address = before.data? handle address := by
    intro handle address absent
    exact data?_eq_of_content?_eq ((view handle address).trans (if_neg absent))
  constructor
  · rw [objects]
    intro one member
    rcases List.mem_append.mp member with old | new
    · exact owned.single one old
    · rw [List.mem_singleton.mp new]
      exact single
  · rw [objects]
    intro one member handle address here
    rcases List.mem_append.mp member with old | new
    · rw [kept handle address (owned.not_mem_fresh old here fresh)]
      exact owned.placed one old handle address here
    · rw [List.mem_singleton.mp new] at here ⊢
      have among := (Buffer.mem_places single).mpr here
      exact ⟨contents, data?_eq_some_iff.mpr ⟨(view handle address).trans (if_pos among),
        SimulatedDevice.bufferResidency_ne_global _⟩, whole⟩
  · rw [objects, List.pairwise_append]
    refine ⟨owned.apart, List.pairwise_singleton _ _, fun one old last new => ?_⟩
    intro handle address here there
    rw [List.mem_singleton.mp new] at there
    exact owned.not_mem_fresh old here fresh ((Buffer.mem_places single).mpr there)
  · rw [objects]
    intro handle address content holds
    by_cases among : (handle, address) ∈ buffer.places
    · exact ⟨buffer, List.mem_append_right _ List.mem_cons_self,
        (Buffer.mem_places single).mp among⟩
    · rw [kept handle address among] at holds
      obtain ⟨one, old, here⟩ := owned.covered handle address content holds
      exact ⟨one, List.mem_append_left _ old, here⟩

/-! ### Writing -/

/-- Other bytes at a place do not change who owns it. -/
theorem Owned.written (owned : before.Owned)
    (buffers : after.registry.buffers = before.registry.buffers) {device : DeviceHandle}
    {address : Address} {content : Content} {bytes : Bytes}
    (length : bytes.length = content.bytes.length)
    (holds : before.content? device address = some content)
    (view : ∀ handle place, after.content? handle place =
      if (handle, place) = (device, address) then some ⟨content.residency, bytes⟩
      else before.content? handle place) : after.Owned := by
  have kept : ∀ handle place, (handle, place) ≠ (device, address) →
      after.data? handle place = before.data? handle place :=
    fun handle place other => data?_eq_of_content?_eq ((view handle place).trans (if_neg other))
  refine ⟨?_, ?_, ?_, ?_⟩
  · rw [buffers]
    exact owned.single
  · rw [buffers]
    intro buffer member handle place here
    obtain ⟨held, there, size⟩ := owned.placed buffer member handle place here
    by_cases same : (handle, place) = (device, address)
    · cases same
      obtain ⟨live, kind⟩ := data?_eq_some_iff.mp there
      obtain rfl := Option.some.inj (holds.symm.trans live)
      exact ⟨bytes, data?_eq_some_iff.mpr ⟨(view device address).trans (if_pos rfl), kind⟩,
        length.trans size⟩
    · rw [kept handle place same]
      exact ⟨held, there, size⟩
  · rw [buffers]
    exact owned.apart
  · rw [buffers]
    intro handle place later there
    by_cases same : (handle, place) = (device, address)
    · cases same
      obtain ⟨live, kind⟩ := data?_eq_some_iff.mp there
      rw [view, if_pos rfl] at live
      obtain rfl := Option.some.inj live
      exact owned.covered device address content (data?_eq_some_iff.mpr ⟨holds, kind⟩)
    · rw [kept handle place same] at there
      exact owned.covered handle place later there

/-! ### Migrating -/

section

variable {source target : DeviceHandle} {moved : AddressMap} {buffer : Buffer}

/-- Where a buffer is after a migration: where it was, or at the copy made for it. -/
theorem Owned.addressOn?_relocated (owned : host.Owned) (differ : source ≠ target)
    (done : Migrated host source target moved middle)
    (member : buffer ∈ host.registry.buffers.objects) {handle : DeviceHandle}
    {address : Address} :
    (buffer.relocated source target moved).1.addressOn? handle = some address ↔
      handle ≠ source ∧ (buffer.addressOn? handle = some address ∨
        handle = target ∧ buffer.addressOn? target = none ∧
          ∃ old, buffer.addressOn? source = some old ∧ (old, address) ∈ moved) := by
  rw [Buffer.addressOn?_relocated (owned.single buffer member) differ]
  by_cases left : handle = source
  · simp [left]
  · by_cases entered : handle = target
    · subst entered
      simp [left, Option.or_eq_some_iff, Option.bind_eq_some_iff,
        lookup_eq_some_iff_mem done.once]
    · simp [left, entered]

/-- The copy for a buffer that was not on the target is nobody's spare. -/
theorem Owned.not_mem_copies (owned : host.Owned) (differ : source ≠ target)
    (done : Migrated host source target moved middle)
    (member : buffer ∈ host.registry.buffers.objects) {old new : Address}
    (here : buffer.addressOn? source = some old) (absent : buffer.addressOn? target = none)
    (copied : (old, new) ∈ moved) : new ∉ host.copies source target moved := by
  intro spare
  obtain ⟨other, among, given⟩ := List.mem_filterMap.mp spare
  rw [Buffer.spare_relocated (owned.single other among) differ] at given
  split at given
  · rename_i there
    obtain ⟨earlier, before, found⟩ := Option.bind_eq_some_iff.mp given
    have entry := List.inj_on_of_nodup_map done.distinct copied (mem_of_lookup found) rfl
    cases entry
    obtain rfl := owned.eq_of_place member among here before
    rw [absent] at there
    cases there
  · cases given

/-- A place that a buffer had on the target is not a copy. -/
theorem Owned.not_mem_moved (owned : host.Owned) (done : Migrated host source target moved middle)
    (member : buffer ∈ host.registry.buffers.objects) {address : Address}
    (here : buffer.addressOn? target = some address) : address ∉ moved.map Prod.snd := by
  intro copied
  obtain ⟨bytes, holds, _⟩ := owned.placed buffer member target address here
  rw [done.fresh address copied] at holds
  cases holds

/-- What a buffer holds stays, but on the source. -/
theorem Owned.data?_stays (owned : host.Owned) (done : Migrated host source target moved middle)
    (member : buffer ∈ host.registry.buffers.objects) {handle : DeviceHandle} {address : Address}
    (left : handle ≠ source) (here : buffer.addressOn? handle = some address) :
    middle.data? handle address = host.data? handle address := by
  by_cases entered : handle = target
  · subst entered
    exact done.stayed address (owned.not_mem_moved done member here)
  · exact done.elsewhere handle address left entered

/-- What a buffer holds after a migration. -/
theorem Owned.placed_relocated (owned : host.Owned) (differ : source ≠ target)
    (done : Migrated host source target moved middle)
    (member : buffer ∈ host.registry.buffers.objects) {handle : DeviceHandle} {address : Address}
    (here : (buffer.relocated source target moved).1.addressOn? handle = some address) :
    ∃ bytes, middle.data? handle address = some ⟨buffer.residency, bytes⟩ ∧
      bytes.length = buffer.size := by
  obtain ⟨left, kept | ⟨rfl, absent, old, before, copied⟩⟩ :=
    (owned.addressOn?_relocated differ done member).mp here
  · rw [owned.data?_stays done member left kept]
    exact owned.placed buffer member handle address kept
  · rw [done.arrived _ copied (owned.not_mem_copies differ done member before absent copied)]
    exact owned.placed buffer member source old before

/-- Buffers that had no place in common have none after a migration. -/
theorem Owned.apart_relocated (owned : host.Owned) (differ : source ≠ target)
    (done : Migrated host source target moved middle) {other : Buffer}
    (member : buffer ∈ host.registry.buffers.objects)
    (among : other ∈ host.registry.buffers.objects)
    (apart : ∀ handle address, buffer.addressOn? handle = some address →
      other.addressOn? handle ≠ some address) {handle : DeviceHandle} {address : Address}
    (here : (buffer.relocated source target moved).1.addressOn? handle = some address) :
    (other.relocated source target moved).1.addressOn? handle ≠ some address := by
  intro there
  obtain ⟨_, kept | ⟨rfl, _, old, before, copied⟩⟩ :=
    (owned.addressOn?_relocated differ done member).mp here
  · obtain ⟨_, kept' | ⟨rfl, _, _, _, copied⟩⟩ :=
      (owned.addressOn?_relocated differ done among).mp there
    · exact apart handle address kept kept'
    · exact owned.not_mem_moved done member kept (List.mem_map_of_mem copied)
  · obtain ⟨_, kept' | ⟨_, _, old', before', copied'⟩⟩ :=
      (owned.addressOn?_relocated differ done among).mp there
    · exact owned.not_mem_moved done among kept' (List.mem_map_of_mem copied)
    · have entry := List.inj_on_of_nodup_map done.distinct copied copied' rfl
      cases entry
      exact apart source old before before'

/-- All data after a migration is at a place of a buffer. -/
theorem Owned.covered_relocated (owned : host.Owned) (differ : source ≠ target)
    (done : Migrated host source target moved middle) {handle : DeviceHandle} {address : Address}
    {content : Content} (holds : middle.data? handle address = some content) :
    ∃ buffer ∈ host.registry.buffers.objects,
      (buffer.relocated source target moved).1.addressOn? handle = some address := by
  by_cases left : handle = source
  · rw [left, done.emptied] at holds
    cases holds
  by_cases copied : handle = target ∧ address ∈ moved.map Prod.snd
  · obtain ⟨rfl, copied⟩ := copied
    obtain ⟨⟨old, new⟩, entry, rfl⟩ := List.mem_map.mp copied
    have kept : new ∉ host.copies source handle moved := by
      intro spare
      rw [done.freed new spare] at holds
      cases holds
    obtain ⟨earlier, held⟩ := (done.keys old).mp (List.mem_map_of_mem entry)
    obtain ⟨buffer, member, here⟩ := owned.covered source old earlier held
    refine ⟨buffer, member, (owned.addressOn?_relocated differ done member).mpr
      ⟨left, .inr ⟨rfl, ?_, old, here, entry⟩⟩⟩
    -- a buffer with a place on the target would have had no use for the copy
    refine Option.eq_none_iff_forall_ne_some.mpr fun other there => kept ?_
    refine List.mem_filterMap.mpr ⟨buffer, member, ?_⟩
    rw [Buffer.spare_relocated (owned.single buffer member) differ, there, here]
    exact (lookup_eq_some_iff_mem done.once).mpr entry
  · have before : host.data? handle address = some content := by
      rw [← holds]
      by_cases entered : handle = target
      · subst entered
        exact (done.stayed address fun among => copied ⟨rfl, among⟩).symm
      · exact (done.elsewhere handle address left entered).symm
    obtain ⟨buffer, member, here⟩ := owned.covered handle address content before
    exact ⟨buffer, member, (owned.addressOn?_relocated differ done member).mpr ⟨left, .inl here⟩⟩

/-- **The buffers own the data after a migration.** What arrived belongs to the buffer that it was
copied for, and what the buffers did not need was given back. -/
theorem Owned.migrated (owned : host.Owned) (differ : source ≠ target)
    (done : Migrated host source target moved middle) :
    (middle.repointed source target moved).Owned := by
  have objects : (middle.repointed source target moved).registry.buffers.objects =
      host.registry.buffers.objects.map fun buffer =>
        (buffer.relocated source target moved).1 := by
    show (middle.registry.buffers.map _).objects = _
    rw [done.across.buffers, Arena.objects_map]
  have data : ∀ handle address, (middle.repointed source target moved).data? handle address =
    middle.data? handle address := fun _ _ => rfl
  refine ⟨?_, ?_, ?_, ?_⟩
  · rw [objects]
    intro buffer member
    obtain ⟨one, among, rfl⟩ := List.mem_map.mp member
    exact Buffer.single_relocated (owned.single one among)
  · rw [objects]
    intro buffer member handle address here
    obtain ⟨one, among, rfl⟩ := List.mem_map.mp member
    rw [Buffer.relocated_eq]
    exact owned.placed_relocated differ done among here
  · rw [objects, List.pairwise_map]
    exact owned.apart.imp_of_mem fun among among' apart _ _ =>
      owned.apart_relocated differ done among among' apart
  · intro handle address content holds
    obtain ⟨buffer, member, here⟩ := owned.covered_relocated differ done holds
    rw [objects]
    exact ⟨_, List.mem_map_of_mem member, here⟩

end

/-! ### Every call -/

theorem data?_of_unlisted (regular : host.Regular) (unlisted : host.isEnumerated = false)
    (handle : DeviceHandle) (address : Address) : host.data? handle address = none := by
  unfold data?
  rw [regular.unlisted unlisted handle]
  rfl

theorem data?_enumerate (regular : host.Regular) (unlisted : host.isEnumerated = false)
    (handle : DeviceHandle) (address : Address) : host.enumerate.data? handle address = none := by
  cases found : host.enumerate.backend? handle with
  | none =>
    unfold data?
    rw [found]
    rfl
  | some device =>
    rw [data?_of_backend? found]
    exact (enumerate_blank regular unlisted found).data address

/-- **A call keeps the buffers owning the data**, unless it is a migration that a device refuses. -/
theorem Transition.owned {call : Call} {result : Except HostError Answer}
    (transition : Transition before call result after) (regular : before.Regular)
    (whole : (⟨call, result⟩ : Exchange).isRefusedMove = false)
    (owned : before.Owned) : after.Owned := by
  cases transition with
  | quiet _ calm => exact owned.calm calm
  | failed calm => exact owned.calm calm
  | listed unlisted =>
    refine owned.of_eq rfl fun handle address => ?_
    rw [data?_enumerate regular unlisted, data?_of_unlisted regular unlisted]
  | contextMade => exact owned.of_eq rfl fun _ _ => rfl
  | queueMade there member calm settled =>
    refine Owned.calm ?_ settled
    exact (owned.calm calm).of_eq rfl fun _ _ => rfl
  | programMade settled =>
    refine Owned.calm ?_ settled
    exact owned.of_eq rfl fun _ _ => rfl
  | kernelMade _ settled =>
    refine Owned.calm ?_ settled
    exact owned.of_eq rfl fun _ _ => rfl
  | bufferMade there _ length devices across fresh view settled =>
    have single := devices ▸ (regular.contexts _ _ there).2.1
    refine Owned.calm ?_ settled
    exact owned.withBuffer regular.packed.buffers across.buffers length single fresh view
  | written _ _ covers across view =>
    exact owned.written across.buffers (Bytes.splice_length covers.2) covers.1 view
  | registered new read => exact owned.of_eq rfl fun _ _ => rfl
  | unregistered found stripped =>
    exact owned.of_eq stripped.across.buffers stripped.relinked.data?_eq
  | rebuilt _ _ => exact owned
  | built _ _ _ _ _ relinked _ _ =>
    obtain ⟨_, _, _, rfl⟩ := relinked.rest
    exact owned.of_eq rfl relinked.data?_eq
  | idle _ => exact owned
  | stranded _ _ => cases whole
  | migrated differ done => exact owned.migrated differ done

/-- **The buffers own the data after every run** in which no migration was refused by a device. -/
theorem Run.owned (run : Run history host) (whole : Whole history) : host.Owned := by
  induction run with
  | start settings devices =>
    exact ⟨List.forall_mem_nil _, List.forall_mem_nil _, .nil,
      fun _ _ _ holds => absurd holds.symm (Option.some_ne_none _)⟩
  | call run call ih =>
    exact (step_transition run.regular call).owned run.regular
      (whole _ List.mem_cons_self) (ih whole.tail)
  | turn _ position switch ih =>
    exact (ih whole).calm (adjust_calm _ position fun device => device.alike_turn switch)

end Host

/-! ### The allocations that the devices list -/

/-- The allocations of a buffer on a device, as the device should list them. -/
def Buffer.allocationsOn (buffer : Buffer) (device : DeviceHandle) : List Allocation :=
  (buffer.places.filter fun place => place.1 = device).map fun place =>
    ⟨place.2, buffer.size, buffer.residency⟩

theorem Buffer.mem_allocationsOn {buffer : Buffer} {device : DeviceHandle}
    {allocation : Allocation} (single : (buffer.places.map Prod.fst).Nodup) :
    allocation ∈ buffer.allocationsOn device ↔
      buffer.addressOn? device = some allocation.address ∧ allocation.size = buffer.size ∧
        allocation.residency = buffer.residency := by
  unfold allocationsOn
  rw [← Buffer.mem_places single]
  simp only [List.mem_map, List.mem_filter, decide_eq_true_eq]
  constructor
  · rintro ⟨⟨_, address⟩, ⟨member, rfl⟩, rfl⟩
    exact ⟨member, rfl, rfl⟩
  · rintro ⟨member, size, residency⟩
    refine ⟨_, ⟨member, rfl⟩, ?_⟩
    cases allocation
    simp_all

theorem Buffer.nodup_allocationsOn {buffer : Buffer} {device : DeviceHandle}
    (single : (buffer.places.map Prod.fst).Nodup) : (buffer.allocationsOn device).Nodup := by
  refine List.Nodup.map_on ?_ (single.of_map.filter _)
  rintro ⟨one, address⟩ member ⟨other, address'⟩ among same
  have here := of_decide_eq_true (List.mem_filter.mp member).2
  have there := of_decide_eq_true (List.mem_filter.mp among).2
  have place : address = address' := congrArg Allocation.address same
  simp only at here there
  rw [here, there, place]

namespace Host

variable {host : Host SimulatedDevice} {history : List Exchange}

/-- The places of the buffers and the allocations of the devices are one to one. -/
structure Matched (host : Host SimulatedDevice) : Prop where
  /-- A buffer is on live devices. -/
  live : ∀ buffer ∈ host.registry.buffers.objects, ∀ place ∈ buffer.places,
    (host.backend? place.1).isSome
  /-- A buffer has one place on a device. -/
  single : ∀ buffer ∈ host.registry.buffers.objects, (buffer.places.map Prod.fst).Nodup
  /-- A device lists an address once. -/
  once : ∀ handle device, host.backend? handle = some device →
    ((DeviceDriver.allocations device).map Allocation.address).Nodup
  /-- A device lists exactly the places of the buffers on it, with size and residency. -/
  listed : ∀ handle device, host.backend? handle = some device →
    (DeviceDriver.allocations device).Perm
      (host.registry.buffers.objects.flatMap fun buffer => buffer.allocationsOn handle)

theorem Owned.mem_allocations (owned : host.Owned) {handle : DeviceHandle}
    {device : SimulatedDevice} (found : host.backend? handle = some device)
    (ordered : device.heap.Ordered) {allocation : Allocation} :
    allocation ∈ device.heap.nonGlobal ↔
      ∃ buffer ∈ host.registry.buffers.objects, allocation ∈ buffer.allocationsOn handle := by
  rw [ordered.mem_nonGlobal, ← data?_of_backend? found]
  constructor
  · rintro ⟨content, holds, size, residency⟩
    obtain ⟨buffer, member, here⟩ := owned.covered handle allocation.address content holds
    refine ⟨buffer, member, (Buffer.mem_allocationsOn (owned.single buffer member)).mpr
      ⟨here, ?_⟩⟩
    obtain ⟨bytes, held, length⟩ := owned.placed buffer member handle allocation.address here
    obtain rfl := Option.some.inj (holds.symm.trans held)
    exact ⟨size.trans length, residency⟩
  · rintro ⟨buffer, member, among⟩
    obtain ⟨here, size, residency⟩ :=
      (Buffer.mem_allocationsOn (owned.single buffer member)).mp among
    obtain ⟨bytes, held, length⟩ := owned.placed buffer member handle allocation.address here
    exact ⟨_, held, size.trans length.symm, residency⟩

/-- **No leak, no dangling place, no sharing**: after every run in which no migration was refused
by a device, the places of the buffers are exactly the allocations of the devices. -/
theorem Run.matched (run : Run history host) (whole : Whole history) : host.Matched := by
  have owned := run.owned whole
  refine
    { live := fun buffer member place among => ?_
      single := owned.single
      once := fun handle device found =>
        (run.regular.sound handle device found).ordered.nonGlobal_nodup
      listed := fun handle device found => ?_ }
  · have here := (Buffer.mem_places (owned.single buffer member)).mp among
    obtain ⟨bytes, held, _⟩ := owned.placed buffer member place.1 place.2 here
    exact live_of_data? held
  · have ordered := (run.regular.sound handle device found).ordered
    have distinct : (DeviceDriver.allocations device).Nodup := ordered.nonGlobal_nodup.of_map
    refine (List.perm_ext_iff_of_nodup distinct ?_).mpr fun allocation => ?_
    · refine List.nodup_flatMap.mpr
        ⟨fun buffer member => Buffer.nodup_allocationsOn (owned.single buffer member), ?_⟩
      refine owned.apart.imp_of_mem fun {one other} member among apart => ?_
      intro allocation here there
      exact apart handle allocation.address
        ((Buffer.mem_allocationsOn (owned.single one member)).mp here).1
        ((Buffer.mem_allocationsOn (owned.single other among)).mp there).1
    · rw [List.mem_flatMap]
      exact owned.mem_allocations found ordered

/-- A buffer on one device and a buffer on both; then all is moved to the other device. -/
def joining : List Call :=
  [.platformIds, .createContext [⟨0, 1⟩] false, .createContext [⟨0, 1⟩, ⟨1, 1⟩] false,
    .createBuffer ⟨0, 1⟩ ⟨.copyHostPtr ||| .allocHostPtr, 4, some [1, 2, 3, 4]⟩,
    .createBuffer ⟨1, 1⟩ ⟨.readOnly, 2, none⟩, .migrateDevice ⟨0, 1⟩ ⟨1, 1⟩]

/-- Places and allocations are one to one after two buffers came to be on one device. -/
theorem matched_joining :
    Whole (record joining (twin 64 64)) ∧ (run joining (twin 64 64)).2.Matched ∧
      (run joining (twin 64 64)).2.registry.buffers.objects.map Buffer.places =
        [[(⟨1, 1⟩, ⟨0x200000100⟩)], [(⟨1, 1⟩, ⟨0x200000000⟩)]] := by
  have whole : Whole (record joining (twin 64 64)) := by decide +kernel
  exact ⟨whole, Run.matched (run_twin 64 64 joining) whole, by decide +kernel⟩

end Host

end ComputeHost
