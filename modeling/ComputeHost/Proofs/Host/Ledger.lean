/-
**Buffers refine a ledger.**

A caller who only sees calls and their results can keep a ledger of what every buffer holds on every
device. While no migration is refused by a device, the ledger is right: a read gives what it says,
and a transfer that is acceptable fails exactly where it has nothing.

* `Ledger.note` — what one call and its result change in the ledger.
* `Mirrors` — the ledger agrees with a host; every call keeps this (`Transition.mirrors`).
* `Run.transfers_refine` — reads and writes after every run.
-/

import ComputeHost.Proofs.Host.Ownership

namespace ComputeHost

open Host

/-! ### The ledger -/

/-- What is known of contexts, queues and buffers from calls and their results. -/
structure Ledger where
  /-- The devices of each context. -/
  contexts : ContextHandle → Option (List DeviceHandle)
  /-- The device of each queue. -/
  queues : QueueHandle → Option DeviceHandle
  /-- The bytes of each buffer on each device. -/
  buffers : BufferHandle → Option (DeviceHandle → Option Bytes)

namespace Ledger

/-- A book with one more entry. What a handle names already, it goes on naming. -/
def enter {kind : ObjectKind} {α : Type} (book : Handle kind → Option α) (handle : Handle kind)
    (value : α) : Handle kind → Option α :=
  fun other => (book other).or (if other = handle then some value else none)

/-- The ledger of a host that was just made. -/
def blank : Ledger := ⟨fun _ => none, fun _ => none, fun _ => none⟩

/-- What a buffer holds on a device. -/
def bytes? (ledger : Ledger) (buffer : BufferHandle) (device : DeviceHandle) : Option Bytes :=
  (ledger.buffers buffer).bind fun copies => copies device

/-- A new buffer holds its first contents on every device of its context. -/
def create (ledger : Ledger) (context : ContextHandle) (request : BufferRequest)
    (handle : BufferHandle) : Ledger :=
  { ledger with
    buffers := enter ledger.buffers handle fun device =>
      if device ∈ (ledger.contexts context).getD [] then some request.contents else none }

/-- A write overwrites its range in the buffer on the device of the queue, and nothing else. -/
def write (ledger : Ledger) (transfer : Transfer) (data : Bytes) : Ledger :=
  { ledger with
    buffers := fun buffer => (ledger.buffers buffer).map fun copies device =>
      if buffer = transfer.buffer ∧ ledger.queues transfer.queue = some device then
        (copies device).map fun bytes => bytes.splice transfer.offset data
      else copies device }

/-- A migration takes every buffer off the source. Where the target had no copy, it has what was on
the source. -/
def migrate (ledger : Ledger) (source target : DeviceHandle) : Ledger :=
  { ledger with
    buffers := fun buffer => (ledger.buffers buffer).map fun copies device =>
      if device = source then none
      else (copies device).or (if device = target then copies source else none) }

/-- What one call and its result change. -/
def note (ledger : Ledger) (exchange : Exchange) : Ledger :=
  match exchange.call, exchange.result with
  | .createContext devices _, .ok (@Answer.handle .context handle) =>
    { ledger with contexts := enter ledger.contexts handle devices }
  | .createQueue _ device _, .ok (@Answer.handle .queue handle) =>
    { ledger with queues := enter ledger.queues handle device }
  | .createBuffer context request, .ok (@Answer.handle .buffer handle) =>
    ledger.create context request handle
  | .writeBuffer transfer data, .ok _ => ledger.write transfer data
  | .migrateDevice source target, .ok _ => ledger.migrate source target
  | _, _ => ledger

/-- The ledger after a history. -/
def ofHistory : List Exchange → Ledger
  | [] => blank
  | exchange :: earlier => (ofHistory earlier).note exchange

/-- A call that failed changes nothing. -/
theorem note_of_error (ledger : Ledger) (call : Call) (error : HostError) :
    ledger.note ⟨call, .error error⟩ = ledger := by
  cases call <;> rfl

/-- A quiet call changes nothing. -/
theorem note_of_quiet (ledger : Ledger) {call : Call} (quiet : call.isQuiet = true)
    (result : Except HostError Answer) : ledger.note ⟨call, result⟩ = ledger := by
  cases call <;> first | rfl | cases quiet

end Ledger

namespace Host

variable {host before middle after : Host SimulatedDevice} {history : List Exchange}
  {ledger : Ledger}

/-! ### A ledger that is right -/

/-- What is at the place of a buffer on a device. -/
def copyOn? (host : Host SimulatedDevice) (buffer : Buffer) (device : DeviceHandle) :
    Option Bytes :=
  (buffer.addressOn? device).bind fun address => (host.data? device address).map Content.bytes

/-- The ledger says what is in the host. -/
structure Mirrors (ledger : Ledger) (host : Host SimulatedDevice) : Prop where
  contexts : ∀ handle, ledger.contexts handle =
    (host.registry.contexts.get? handle).map Context.devices
  queues : ∀ handle, ledger.queues handle = (host.registry.queues.get? handle).map Queue.device
  buffers : ∀ handle, ledger.buffers handle =
    (host.registry.buffers.get? handle).map host.copyOn?

/-- A new host mirrors a blank ledger. -/
theorem mirrors_new (settings : Settings) (devices : List SimulatedDevice) :
    Mirrors .blank (Host.new settings devices) :=
  ⟨fun _ => rfl, fun _ => rfl, fun _ => rfl⟩

theorem copyOn?_congr (data : ∀ handle address, after.data? handle address =
    before.data? handle address) : after.copyOn? = before.copyOn? := by
  funext buffer device
  unfold copyOn?
  simp only [data]

theorem Mirrors.of_eq (mirrors : Mirrors ledger before)
    (contexts : ∀ handle, (after.registry.contexts.get? handle).map Context.devices =
      (before.registry.contexts.get? handle).map Context.devices)
    (queues : after.registry.queues = before.registry.queues)
    (buffers : after.registry.buffers = before.registry.buffers)
    (data : ∀ handle address, after.data? handle address = before.data? handle address) :
    Mirrors ledger after := by
  refine ⟨fun handle => ?_, fun handle => ?_, fun handle => ?_⟩
  · rw [contexts, mirrors.contexts]
  · rw [queues, mirrors.queues]
  · rw [buffers, copyOn?_congr data, mirrors.buffers]

theorem Mirrors.calm (mirrors : Mirrors ledger before) (calm : before.Calm after) :
    Mirrors ledger after :=
  mirrors.of_eq calm.contexts calm.queues calm.buffers calm.each.data?_eq

/-- A book of an arena has what the arena has, after an object was put in. -/
theorem enter_insert {kind : ObjectKind} {α β : Type} {arena : Arena kind α}
    (packed : arena.Packed) {book : Handle kind → Option β} {face : α → β}
    (right : ∀ handle, book handle = (arena.get? handle).map face) (object : α)
    (handle : Handle kind) :
    Ledger.enter book (arena.insert object).1 (face object) handle =
      ((arena.insert object).2.get? handle).map face := by
  unfold Ledger.enter
  rw [packed.map_get?_insert, right]

/-! ### The calls that change the ledger -/

theorem Mirrors.withContext (mirrors : Mirrors ledger host) (packed : host.registry.contexts.Packed)
    (context : Context) :
    Mirrors
      { ledger with
        contexts := Ledger.enter ledger.contexts (host.registry.contexts.insert context).1
          context.devices }
      (host.withContext context) :=
  { mirrors with contexts := enter_insert packed mirrors.contexts context }

theorem Mirrors.withQueue (mirrors : Mirrors ledger host) (packed : host.registry.queues.Packed)
    (queue : Queue) :
    Mirrors
      { ledger with
        queues := Ledger.enter ledger.queues (host.registry.queues.insert queue).1 queue.device }
      (host.withQueue queue) :=
  { mirrors with queues := enter_insert packed mirrors.queues queue }

/-- A new buffer holds its first contents where it was allocated. -/
theorem copyOn?_made {buffer : Buffer} {contents : Bytes} {device : DeviceHandle}
    (view : ∀ handle address, middle.content? handle address =
      if (handle, address) ∈ buffer.places then some ⟨buffer.residency, contents⟩
      else before.content? handle address) :
    middle.copyOn? buffer device =
      if device ∈ buffer.places.map Prod.fst then some contents else none := by
  unfold copyOn? Buffer.addressOn?
  cases found : buffer.places.lookup device with
  | none => rw [if_neg (lookup_eq_none_iff_not_mem_keys.mp found), Option.bind_none]
  | some address =>
    have member := mem_of_lookup found
    have held : middle.data? device address = some ⟨buffer.residency, contents⟩ :=
      data?_eq_some_iff.mpr ⟨(view device address).trans (if_pos member),
        SimulatedDevice.bufferResidency_ne_global _⟩
    rw [if_pos (List.mem_map_of_mem member), Option.bind_some, held]
    rfl

/-- A buffer holds what it held if nothing of it is at the places that changed. -/
theorem copyOn?_kept {buffer : Buffer} {device : DeviceHandle}
    (same : ∀ address, buffer.addressOn? device = some address →
      after.content? device address = before.content? device address) :
    after.copyOn? buffer device = before.copyOn? buffer device := by
  unfold copyOn?
  cases here : buffer.addressOn? device with
  | none => rfl
  | some address =>
    rw [Option.bind_some, Option.bind_some, data?_eq_of_content?_eq (same address here)]

theorem Mirrors.withBuffer (mirrors : Mirrors ledger before) (owned : before.Owned)
    (packed : before.registry.buffers.Packed)
    (across : Across SimulatedDevice.Steady before middle) {entry : Context}
    {request : BufferRequest} {context : ContextHandle} {places : List (DeviceHandle × Address)}
    (there : before.registry.contexts.get? context = some entry)
    (devices : places.map Prod.fst = entry.devices)
    (fresh : ∀ place ∈ places, before.content? place.1 place.2 = none)
    (view : ∀ handle address, middle.content? handle address =
      if (handle, address) ∈ places then some ⟨request.residency, request.contents⟩
      else before.content? handle address) :
    Mirrors (ledger.create context request (before.registry.buffers.insert
        { context, size := request.size, flags := request.flags, places }).1)
      (middle.withBuffer { context, size := request.size, flags := request.flags, places }) := by
  obtain ⟨_, rest⟩ := across.rest
  refine ⟨fun handle => ?_, fun handle => ?_, fun handle => ?_⟩
  · subst rest
    exact mirrors.contexts handle
  · subst rest
    exact mirrors.queues handle
  have made : (fun device => if device ∈ (ledger.contexts context).getD [] then
        some request.contents else none) =
      middle.copyOn? { context, size := request.size, flags := request.flags, places } := by
    funext device
    rw [mirrors.contexts, there, Option.map_some, Option.getD_some, ← devices]
    symm
    apply copyOn?_made
    exact view
  have kept : ∀ buffer ∈ before.registry.buffers.objects,
      middle.copyOn? buffer = before.copyOn? buffer := by
    intro buffer member
    funext device
    refine copyOn?_kept fun address here => ?_
    exact (view device address).trans (if_neg (owned.not_mem_fresh member here fresh))
  unfold Ledger.create Ledger.enter
  simp only
  rw [made, mirrors.buffers]
  show _ = ((middle.registry.buffers.insert _).2.get? handle).map middle.copyOn?
  rw [across.buffers, packed.get?_insert]
  cases found : before.registry.buffers.get? handle with
  | some held =>
    rw [Option.some_or, Option.map_some, Option.map_some, Option.some_or,
      kept held (Arena.mem_objects_of_get? found)]
  | none =>
    rw [Option.none_or, Option.map_none, Option.none_or]
    split <;> rfl

/-- What is written shows at its place. -/
theorem Owned.copyOn?_written (owned : before.Owned) {buffer : Buffer}
    (member : buffer ∈ before.registry.buffers.objects) {device : DeviceHandle}
    {address : Address} {content : Content} (place : buffer.addressOn? device = some address)
    (holds : before.content? device address = some content) {bytes : Bytes}
    (now : after.content? device address = some ⟨content.residency, bytes⟩) :
    before.copyOn? buffer device = some content.bytes ∧
      after.copyOn? buffer device = some bytes := by
  obtain ⟨held, there, _⟩ := owned.placed buffer member device address place
  obtain ⟨live, kind⟩ := data?_eq_some_iff.mp there
  obtain rfl := Option.some.inj (holds.symm.trans live)
  have later : after.data? device address = some ⟨buffer.residency, bytes⟩ :=
    data?_eq_some_iff.mpr ⟨now, kind⟩
  unfold copyOn?
  rw [place, Option.bind_some, Option.bind_some, there, later]
  exact ⟨rfl, rfl⟩

/-- A write shows in its buffer on the device of its queue, and in no other buffer. -/
theorem Mirrors.written (mirrors : Mirrors ledger before) (owned : before.Owned)
    (across : Across SimulatedDevice.Steady before after) {transfer : Transfer} {data : Bytes}
    {queue : Queue} {buffer : Buffer} {address : Address} {content : Content}
    (accepts : before.Accepts transfer data.length queue buffer)
    (place : buffer.addressOn? queue.device = some address)
    (covers : before.Covers queue.device address transfer data.length content)
    (view : ∀ handle place, after.content? handle place =
      if (handle, place) = (queue.device, address) then
        some ⟨content.residency, content.bytes.splice transfer.offset data⟩
      else before.content? handle place) : Mirrors (ledger.write transfer data) after := by
  obtain ⟨_, rest⟩ := across.rest
  refine ⟨fun handle => ?_, fun handle => ?_, fun handle => ?_⟩
  · subst rest
    exact mirrors.contexts handle
  · subst rest
    exact mirrors.queues handle
  unfold Ledger.write
  simp only
  rw [across.buffers, mirrors.buffers, Option.map_map]
  cases found : before.registry.buffers.get? handle with
  | none => rfl
  | some held =>
    rw [Option.map_some, Option.map_some, Function.comp_apply]
    congr 1
    funext device
    have device_of : ledger.queues transfer.queue = some device ↔ queue.device = device := by
      rw [mirrors.queues, accepts.queued, Option.map_some, Option.some_inj]
    simp only [device_of]
    by_cases target : handle = transfer.buffer ∧ queue.device = device
    · obtain ⟨rfl, rfl⟩ := target
      obtain rfl := Option.some.inj (accepts.named.symm.trans found)
      obtain ⟨earlier, now⟩ := owned.copyOn?_written (Arena.mem_objects_of_get? found) place
        covers.1 ((view _ _).trans (if_pos rfl))
      rw [if_pos ⟨rfl, rfl⟩, earlier, now]
      rfl
    · rw [if_neg target]
      refine (copyOn?_kept fun other here => (view device other).trans (if_neg ?_)).symm
      -- no other buffer has this place
      rintro same
      cases same
      refine target ⟨?_, rfl⟩
      by_contra differ
      exact Arena.rel_of_pairwise owned.apart
        (fun _ _ apart handle address here there => apart handle address there here)
        found accepts.named differ queue.device address here place

/-- What a buffer holds on a device after a migration: what it held there, or what it held on the
source. -/
theorem Owned.copyOn?_relocated (owned : before.Owned) {source target device : DeviceHandle}
    {moved : AddressMap} (differ : source ≠ target)
    (done : Migrated before source target moved middle) {buffer : Buffer}
    (member : buffer ∈ before.registry.buffers.objects) :
    middle.copyOn? (buffer.relocated source target moved).1 device =
      if device = source then none
      else (before.copyOn? buffer device).or
        (if device = target then before.copyOn? buffer source else none) := by
  unfold copyOn?
  rw [Buffer.addressOn?_relocated (owned.single buffer member) differ]
  by_cases left : device = source
  · rw [if_pos left, if_pos left, Option.bind_none]
  rw [if_neg left, if_neg left]
  cases here : buffer.addressOn? device with
  | some address =>
    obtain ⟨bytes, holds, _⟩ := owned.placed buffer member device address here
    rw [Option.some_or, Option.bind_some, Option.bind_some,
      owned.data?_stays done member left here, holds]
    rfl
  | none =>
    rw [Option.bind_none, Option.none_or, Option.none_or]
    by_cases entered : device = target
    · subst entered
      rw [if_pos rfl, if_pos rfl]
      cases before_move : buffer.addressOn? source with
      | none => rfl
      | some old =>
        obtain ⟨bytes, holds, _⟩ := owned.placed buffer member source old before_move
        obtain ⟨entry, among, same⟩ := List.mem_map.mp ((done.keys old).mpr ⟨_, holds⟩)
        have copied : (old, entry.2) ∈ moved := by
          rw [← same]
          exact among
        rw [Option.bind_some, Option.bind_some,
          (lookup_eq_some_iff_mem done.once).mpr copied, Option.bind_some,
          done.arrived _ copied (owned.not_mem_copies differ done member before_move here copied)]
    · rw [if_neg entered, if_neg entered]
      rfl

/-- After a migration the buffers hold what the ledger says. -/
theorem Mirrors.migrated (mirrors : Mirrors ledger before) (owned : before.Owned)
    {source target : DeviceHandle} {moved : AddressMap} (differ : source ≠ target)
    (done : Migrated before source target moved middle) :
    Mirrors (ledger.migrate source target) (middle.repointed source target moved) := by
  obtain ⟨_, rest⟩ := done.across.rest
  refine ⟨fun handle => ?_, fun handle => ?_, fun handle => ?_⟩
  · subst rest
    exact mirrors.contexts handle
  · subst rest
    exact mirrors.queues handle
  unfold Ledger.migrate
  simp only
  show _ = ((middle.registry.buffers.map _).get? handle).map middle.copyOn?
  rw [Arena.get?_map, done.across.buffers, mirrors.buffers, Option.map_map, Option.map_map]
  cases found : before.registry.buffers.get? handle with
  | none => rfl
  | some buffer =>
    rw [Option.map_some, Option.map_some, Function.comp_apply, Function.comp_apply]
    congr 1
    funext device
    exact (owned.copyOn?_relocated differ done (Arena.mem_objects_of_get? found)).symm

/-! ### Every call -/

/-- **A call and its result change the ledger as they change the host**, unless it is a migration
that a device refuses. -/
theorem Transition.mirrors {call : Call} {result : Except HostError Answer}
    (transition : Transition before call result after) (regular : before.Regular)
    (whole : (⟨call, result⟩ : Exchange).isRefusedMove = false) (owned : before.Owned)
    (mirrors : Mirrors ledger before) : Mirrors (ledger.note ⟨call, result⟩) after := by
  cases transition with
  | quiet quiet calm =>
    rw [Ledger.note_of_quiet ledger quiet]
    exact mirrors.calm calm
  | failed calm =>
    rw [Ledger.note_of_error]
    exact mirrors.calm calm
  | listed unlisted =>
    rw [Ledger.note_of_quiet ledger rfl]
    refine mirrors.of_eq (fun _ => rfl) rfl rfl fun handle address => ?_
    rw [data?_enumerate regular unlisted, data?_of_unlisted regular unlisted]
  | contextMade => exact mirrors.withContext regular.packed.contexts _
  | @queueMade context device properties entry stream middle _ there member calm settled =>
    have made := (mirrors.calm calm).withQueue (regular.calm calm).packed.queues
      { context, device, properties, stream }
    rw [calm.queues] at made
    exact made.calm settled
  | programMade settled =>
    refine Mirrors.calm ?_ settled
    exact mirrors.of_eq (fun _ => rfl) rfl rfl fun _ _ => rfl
  | kernelMade _ settled =>
    refine Mirrors.calm ?_ settled
    exact mirrors.of_eq (fun _ => rfl) rfl rfl fun _ _ => rfl
  | bufferMade there _ _ devices across fresh view settled =>
    refine Mirrors.calm ?_ settled
    exact mirrors.withBuffer owned regular.packed.buffers across there devices fresh view
  | written accepts place covers across view =>
    exact mirrors.written owned across accepts place covers view
  | registered new read => exact mirrors.of_eq (fun _ => rfl) rfl rfl fun _ _ => rfl
  | unregistered found stripped =>
    have same := stripped.relinked.data?_eq
    obtain ⟨devices, rfl⟩ := stripped.across.rest
    exact mirrors.of_eq (fun _ => rfl) rfl rfl same
  | rebuilt _ _ => exact mirrors
  | built _ _ _ _ _ relinked _ _ =>
    have same := relinked.data?_eq
    obtain ⟨_, _, _, rfl⟩ := relinked.rest
    exact mirrors.of_eq (fun _ => rfl) rfl rfl same
  | idle unlisted =>
    -- no buffer is on a device, so taking them off the source changes nothing
    refine ⟨mirrors.contexts, mirrors.queues, fun handle => ?_⟩
    have empty : before.copyOn? = fun _ _ => none := by
      funext buffer device
      unfold copyOn?
      simp [data?_of_unlisted regular unlisted]
    show ((ledger.buffers handle).map _) = _
    rw [mirrors.buffers, empty, Option.map_map]
    cases before.registry.buffers.get? handle with
    | none => rfl
    | some buffer => simp [Function.comp_def]
  | stranded _ _ => cases whole
  | migrated differ done => exact mirrors.migrated owned differ done

/-- **The ledger is right after every run** in which no migration was refused by a device. -/
theorem Run.mirrors (run : Run history host) (whole : Whole history) :
    Mirrors (.ofHistory history) host := by
  induction run with
  | start settings devices => exact mirrors_new settings _
  | call run call ih =>
    exact (step_transition run.regular call).mirrors run.regular (whole _ List.mem_cons_self)
      (run.owned whole.tail) (ih whole.tail)
  | turn _ position switch ih =>
    exact (ih whole).calm (adjust_calm _ position fun device => device.alike_turn switch)

/-! ### Transfers -/

/-- What is in the buffer of a caller after a read into it. -/
def received (out : Bytes) : Except HostError Answer → Bytes
  | .ok (.bytes data) => data
  | _ => out

variable {transfer : Transfer} {length : Nat} {queue : Queue} {buffer : Buffer}

theorem Mirrors.bytes?_eq (mirrors : Mirrors ledger host)
    (accepts : host.Accepts transfer length queue buffer) (device : DeviceHandle) :
    ledger.bytes? transfer.buffer device = host.copyOn? buffer device := by
  unfold Ledger.bytes?
  rw [mirrors.buffers, accepts.named]
  rfl

/-- An acceptable transfer has no target, or one that holds its range. -/
theorem Accepts.target (accepts : host.Accepts transfer length queue buffer) (owned : host.Owned) :
    (host.copyOn? buffer queue.device = none ∧
      ∃ error, transferTarget transfer length host = .error error) ∨
    ∃ address content, transferTarget transfer length host = .ok (queue.device, address) ∧
      host.Covers queue.device address transfer length content ∧
      host.copyOn? buffer queue.device = some content.bytes := by
  unfold copyOn?
  cases place : buffer.addressOn? queue.device with
  | none =>
    left
    refine ⟨rfl, ?_⟩
    cases passes : transferTarget transfer length host with
    | error error => exact ⟨error, rfl⟩
    | ok found =>
      obtain ⟨device, address⟩ := found
      obtain ⟨queue', buffer', accepts', _, same, there⟩ := transferTarget_eq_ok_iff.mp passes
      obtain rfl := Option.some.inj (accepts.queued.symm.trans accepts'.queued)
      obtain rfl := Option.some.inj (accepts.named.symm.trans accepts'.named)
      rw [← same, place] at there
      cases there
  | some address =>
    right
    obtain ⟨bytes, holds, size⟩ :=
      owned.placed buffer (Arena.mem_objects_of_get? accepts.named) queue.device address place
    have target := transferTarget_eq_ok_iff.mpr
      ⟨queue, buffer, accepts, live_of_data? holds, rfl, place⟩
    refine ⟨address, _, target,
      ⟨(data?_eq_some_iff.mp holds).1, Nat.le_trans accepts.within (Nat.le_of_eq size.symm)⟩, ?_⟩
    rw [Option.bind_some, holds]
    rfl

/-- An acceptable read fails where there is no copy, and gives its range of the copy elsewhere. -/
theorem step_readBuffer (accepts : host.Accepts transfer length queue buffer)
    (owned : host.Owned) :
    (host.copyOn? buffer queue.device = none ∧
      ∃ error, (step (.readBuffer transfer length) host).1 = .error error) ∨
    ∃ bytes, host.copyOn? buffer queue.device = some bytes ∧
      transfer.offset + length ≤ bytes.length ∧
      (step (.readBuffer transfer length) host).1 =
        .ok (.bytes (bytes.slice transfer.offset length)) := by
  rcases accepts.target owned with
    ⟨absent, error, refused⟩ | ⟨address, content, target, covers, copy⟩
  · exact .inl ⟨absent, error, readBuffer_of_refused refused⟩
  · exact .inr ⟨content.bytes, copy, covers.2, readBuffer_of_covers target covers⟩

/-- An acceptable write fails exactly where there is no copy. -/
theorem step_writeBuffer {data : Bytes} (accepts : host.Accepts transfer data.length queue buffer)
    (owned : host.Owned) :
    (host.copyOn? buffer queue.device = none ∧
      ∃ error, (step (.writeBuffer transfer data) host).1 = .error error) ∨
    ∃ bytes, host.copyOn? buffer queue.device = some bytes ∧
      (step (.writeBuffer transfer data) host).1 = .ok .nothing := by
  rcases accepts.target owned with
    ⟨absent, error, refused⟩ | ⟨address, content, target, covers, copy⟩
  · exact .inl ⟨absent, error, writeBuffer_of_refused refused⟩
  · exact .inr ⟨content.bytes, copy, writeBuffer_of_covers target covers⟩

/-- **Transfers refine the ledger.** After every run in which no migration was refused by a device,
a read that succeeds gives its range of what the ledger says, an acceptable transfer fails exactly
where the ledger has nothing, and a read that fails leaves the buffer of the caller as it was. -/
theorem Run.transfers_refine (run : Run history host) (whole : Whole history)
    (transfer : Transfer) (length : Nat) (data out : Bytes) :
    (∀ answer, (step (.readBuffer transfer length) host).1 = .ok answer → ∃ device bytes,
      (Ledger.ofHistory history).queues transfer.queue = some device ∧
      (Ledger.ofHistory history).bytes? transfer.buffer device = some bytes ∧
      transfer.offset + length ≤ bytes.length ∧
      answer = .bytes (bytes.slice transfer.offset length)) ∧
    (∀ queue buffer, host.Accepts transfer length queue buffer →
      ((∃ error, (step (.readBuffer transfer length) host).1 = .error error) ↔
        (Ledger.ofHistory history).bytes? transfer.buffer queue.device = none)) ∧
    (∀ queue buffer, host.Accepts transfer data.length queue buffer →
      ((∃ error, (step (.writeBuffer transfer data) host).1 = .error error) ↔
        (Ledger.ofHistory history).bytes? transfer.buffer queue.device = none)) ∧
    (∀ error, (step (.readBuffer transfer length) host).1 = .error error →
      received out (step (.readBuffer transfer length) host).1 = out) := by
  have owned := run.owned whole
  have mirrors := run.mirrors whole
  refine ⟨fun answer done => ?_, fun queue buffer accepts => ?_, fun queue buffer accepts => ?_,
    fun error failed => ?_⟩
  · obtain ⟨_, _, _, target, _⟩ := readBuffer_eq_ok done
    obtain ⟨queue, buffer, accepts, _⟩ := transferTarget_eq_ok_iff.mp target
    rcases step_readBuffer accepts owned with ⟨_, error, failed⟩ | ⟨bytes, copy, within, gives⟩
    · rw [failed] at done
      cases done
    · rw [gives] at done
      cases done
      refine ⟨queue.device, bytes, ?_, ?_, within, rfl⟩
      · rw [mirrors.queues, accepts.queued]
        rfl
      · rw [mirrors.bytes?_eq accepts, copy]
  · rw [mirrors.bytes?_eq accepts]
    rcases step_readBuffer accepts owned with ⟨absent, failed⟩ | ⟨bytes, copy, _, gives⟩
    · exact iff_of_true failed absent
    · rw [copy, gives]
      exact iff_of_false (fun ⟨_, same⟩ => nomatch same) (Option.some_ne_none bytes)
  · rw [mirrors.bytes?_eq accepts]
    rcases step_writeBuffer accepts owned with ⟨absent, failed⟩ | ⟨bytes, copy, gives⟩
    · exact iff_of_true failed absent
    · rw [copy, gives]
      exact iff_of_false (fun ⟨_, same⟩ => nomatch same) (Option.some_ne_none bytes)
  · rw [failed]
    rfl

/-- Two buffers of one device are moved to another after a part of one was overwritten. -/
def overwriting : List Call :=
  [.platformIds, .createContext [⟨0, 1⟩] false, .createContext [⟨1, 1⟩, ⟨0, 1⟩] false,
    .createQueue ⟨0, 1⟩ ⟨0, 1⟩ ⟨0⟩, .createQueue ⟨1, 1⟩ ⟨1, 1⟩ ⟨0⟩,
    .createBuffer ⟨1, 1⟩ ⟨.copyHostPtr, 4, some [1, 2, 3, 4]⟩,
    .createBuffer ⟨0, 1⟩ ⟨.copyHostPtr, 4, some [5, 6, 7, 8]⟩,
    .writeBuffer { queue := ⟨1, 1⟩, buffer := ⟨0, 1⟩, offset := 1 } [9, 9],
    .migrateDevice ⟨0, 1⟩ ⟨1, 1⟩]

/-- All but the first byte of the first buffer, on the second device. -/
def suffix : Transfer := { queue := ⟨1, 1⟩, buffer := ⟨0, 1⟩, offset := 1 }

/-- What was overwritten on the target is read there, and the other buffer has left the source. -/
theorem transfers_refine_overwriting :
    Whole (record overwriting (twin 64 64)) ∧
    (step (.readBuffer suffix 3) (run overwriting (twin 64 64)).2).1.toBool = true ∧
    (∀ answer, (step (.readBuffer suffix 3) (run overwriting (twin 64 64)).2).1 = .ok answer →
      answer = .bytes [9, 9, 4]) ∧
    (Ledger.ofHistory (record overwriting (twin 64 64))).bytes? ⟨1, 1⟩ ⟨0, 1⟩ = none := by
  have whole : Whole (record overwriting (twin 64 64)) := by decide +kernel
  have device_of : (Ledger.ofHistory (record overwriting (twin 64 64))).queues suffix.queue =
      some ⟨1, 1⟩ := by decide +kernel
  have bytes_of : (Ledger.ofHistory (record overwriting (twin 64 64))).bytes? suffix.buffer
      ⟨1, 1⟩ = some [1, 9, 9, 4] := by decide +kernel
  refine ⟨whole, by decide +kernel, fun answer done => ?_, by decide +kernel⟩
  obtain ⟨device, bytes, queued, held, _, same⟩ :=
    (Run.transfers_refine (run_twin 64 64 overwriting) whole _ 3 [] []).1 answer done
  rw [device_of] at queued
  cases queued
  rw [bytes_of] at held
  cases held
  exact same

end Host

end ComputeHost
