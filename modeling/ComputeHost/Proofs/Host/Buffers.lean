/-
**Making buffers.**

A buffer is allocated on its devices one after the other. Either it gets fresh memory with its first
contents on each of them, or everything allocated for it is given back.

* `BufferRequest.check_eq_ok` — a request that passes its checks starts with its data.
* `freePlaces_run`, `allocatePlaces_run` — the two loops.
* `createBuffer_run` — the whole call.
-/

import ComputeHost.Proofs.Host.Regular

namespace ComputeHost

/-! ### Requests -/

namespace BufferRequest

variable {request : BufferRequest} {initial : Option Bytes}

/-- The bytes that a buffer starts with: those given, or zeros. -/
def contents (request : BufferRequest) : Bytes :=
  match request.data with
  | some data => data.take request.size
  | none => Bytes.zeros request.size

theorem initial_eq_ok (passes : request.initial = .ok initial) :
    (∀ data ∈ initial, data.length = request.size) ∧
      initial.getD (Bytes.zeros request.size) = request.contents := by
  unfold BufferRequest.initial at passes
  unfold contents
  split at passes
  · cases passes
  · cases passes
  · rename_i data _ given
    rw [given]
    split at passes
    · cases passes
    · rename_i enough
      cases passes
      refine ⟨fun taken same => ?_, rfl⟩
      cases same
      rw [List.length_take]
      omega
  · rename_i not_given
    cases passes
    rw [not_given]
    exact ⟨nofun, rfl⟩

/-- A request that passes its checks asks for some bytes and starts with its data. -/
theorem check_eq_ok (passes : request.check = .ok initial) :
    request.size ≠ 0 ∧ (∀ data ∈ initial, data.length = request.size) ∧
      initial.getD (Bytes.zeros request.size) = request.contents := by
  unfold check at passes
  simp only [Action.refuse_eq_ok_iff] at passes
  obtain ⟨_, _, _, size, passes⟩ := passes
  exact ⟨size, initial_eq_ok passes⟩

/-- A request that passes its checks has enough data. -/
theorem length_contents (passes : request.check = .ok initial) :
    request.contents.length = request.size := by
  obtain ⟨_, whole, contents⟩ := check_eq_ok passes
  rw [← contents]
  cases initial with
  | none => exact Bytes.zeros_length request.size
  | some data => exact whole data rfl

/-- A request that passes its checks has data exactly if it is flagged so, and enough of it. -/
theorem contents_of_check (passes : request.check = .ok initial) :
    (request.flags.contains .copyHostPtr = true → ∃ data, request.data = some data ∧
      request.size ≤ data.length ∧ request.contents = data.take request.size) ∧
    (request.flags.contains .copyHostPtr = false → request.data = none ∧
      request.contents = Bytes.zeros request.size) := by
  unfold check at passes
  simp only [Action.refuse_eq_ok_iff] at passes
  obtain ⟨_, _, _, _, passes⟩ := passes
  unfold BufferRequest.initial at passes
  unfold contents
  split at passes
  · cases passes
  · cases passes
  · rename_i data flagged given
    split at passes
    · cases passes
    · rename_i enough
      rw [flagged, given]
      exact ⟨fun _ => ⟨data, rfl, by omega, rfl⟩, nofun⟩
  · rename_i unflagged absent
    rw [unflagged, absent]
    exact ⟨nofun, fun _ => ⟨rfl, rfl⟩⟩

/-- Who sees the memory of the buffer. -/
def residency (request : BufferRequest) : Residency :=
  SimulatedDevice.bufferResidency (request.flags.contains .allocHostPtr)

end BufferRequest

namespace SimulatedDevice

variable {device middle after : SimulatedDevice}

/-- The device stays in good order and has the same modules. -/
structure Steady (device after : SimulatedDevice) : Prop where
  sound : device.Sound → after.Sound
  modules : after.modules = device.modules

theorem Steady.refl (device : SimulatedDevice) : device.Steady device := ⟨id, rfl⟩

theorem Steady.trans (first : device.Steady middle) (second : middle.Steady after) :
    device.Steady after :=
  ⟨second.sound ∘ first.sound, second.modules.trans first.modules⟩

theorem Alike.steady (alike : device.Alike after) : device.Steady after :=
  ⟨alike.sound, alike.modules⟩

theorem Steady.of_heap (modules : after.modules = device.modules) (ordered : after.heap.Ordered)
    (keeps : device.heap.KeepsGlobals after.heap) : device.Steady after :=
  ⟨fun sound => sound.of_heap modules ordered keeps, modules⟩

end SimulatedDevice

namespace Host

variable {host before after : Host SimulatedDevice}

/-! ### Giving places back -/

/-- No storage of a global variable is at the places. -/
def ArePlaces (host : Host SimulatedDevice) (places : List (DeviceHandle × Address)) : Prop :=
  ∀ place ∈ places, ∀ bytes, host.content? place.1 place.2 ≠ some ⟨.global, bytes⟩

/-- What a replaced device holds. -/
theorem content?_setBackend {target handle : DeviceHandle} {backend changed : SimulatedDevice}
    (found : host.backend? target = some backend) (address : Address) :
    (host.setBackend target changed).content? handle address =
      if handle = target then changed.heap.content? address
      else host.content? handle address := by
  unfold content?
  rw [backend?_setBackend, found]
  split <;> rfl

/-- Giving back one place leaves nothing there, whether or not anything was. -/
theorem attempt_free (sound : ∀ handle device, host.backend? handle = some device → device.Sound)
    (place : DeviceHandle × Address) (data : host.ArePlaces [place]) :
    ∃ after, attempt (onDevice place.1 .device (DeviceDriver.free place.2)) host = .ok () after ∧
      Across SimulatedDevice.Steady host after ∧
      ∀ handle address, after.content? handle address =
        if (handle, address) = place then none else host.content? handle address := by
  obtain ⟨target, freed⟩ := place
  cases found : host.backend? target with
  | none =>
    refine ⟨host, ?_, .refl SimulatedDevice.Steady.refl host, fun handle address => ?_⟩
    · unfold attempt
      rw [onDevice_of_none found]
    · split
      · rename_i here
        cases here
        unfold content?
        rw [found]
        rfl
      · rfl
  | some device =>
    have order := (sound target device found).ordered
    obtain ⟨heap, outcome, ordered, view⟩ := SimulatedDevice.selected_free_view order freed
    refine ⟨host.setBackend target { device.visited with heap }, ?_, ?_, fun handle address => ?_⟩
    · unfold attempt
      rcases outcome with done | ⟨cause, failed⟩
      · rw [onDevice_of_ok found done]
      · rw [onDevice_of_error found failed]
    · refine .setBackend SimulatedDevice.Steady.refl found
        (.of_heap rfl ordered fun address bytes live => ⟨bytes, ?_, rfl⟩)
      have other : address ≠ freed := by
        rintro rfl
        refine data _ (List.mem_singleton_self _) bytes ?_
        rw [content?_of_backend? found]
        exact live
      exact (view address).trans ((if_neg other).trans live)
    · rw [content?_setBackend found]
      by_cases here : handle = target
      · subst here
        simp only [if_true, view, content?_of_backend? found, Prod.mk.injEq, true_and]
      · simp [here]

/-- Devices that were in good order are so after a steady change. -/
theorem Across.sound (across : Across SimulatedDevice.Steady before after)
    (sound : ∀ handle device, before.backend? handle = some device → device.Sound) :
    ∀ handle device, after.backend? handle = some device → device.Sound := by
  intro handle device found
  obtain ⟨one, earlier, steady⟩ := across.each.some_of found
  exact steady.sound (sound handle one earlier)

theorem freePlaces_run {places : List (DeviceHandle × Address)}
    (sound : ∀ handle device, host.backend? handle = some device → device.Sound)
    (data : host.ArePlaces places) :
    ∃ after, freePlaces places host = .ok () after ∧
      Across SimulatedDevice.Steady host after ∧
      ∀ handle address, after.content? handle address =
        if (handle, address) ∈ places then none else host.content? handle address := by
  induction places generalizing host with
  | nil => exact ⟨host, rfl, .refl SimulatedDevice.Steady.refl host, fun _ _ => by simp⟩
  | cons place rest ih =>
    obtain ⟨middle, freed, across, view⟩ := attempt_free sound place fun other member =>
      data other (List.mem_cons.mpr (.inl (List.mem_singleton.mp member)))
    have still : middle.ArePlaces rest := by
      intro other member bytes
      rw [view]
      split
      · exact nofun
      · exact data other (List.mem_cons_of_mem _ member) bytes
    obtain ⟨after, ran, more, later⟩ := ih (across.sound sound) still
    refine ⟨after, (Action.bind_of_ok freed).trans ran,
      across.trans (fun _ _ _ => SimulatedDevice.Steady.trans) more, fun handle address => ?_⟩
    rw [later, view]
    by_cases here : (handle, address) = place
    · simp [here]
    · simp [here]

/-! ### Allocating on every device -/

/-- Allocating a buffer on one device gives a fresh place with the first contents, or fails and
leaves everything live as it was. -/
theorem allocatePlace_run
    (sound : ∀ handle device, host.backend? handle = some device → device.Sound)
    (request : BufferRequest) {initial : Option Bytes}
    (whole : ∀ data ∈ initial, data.length = request.size) (target : DeviceHandle)
    (lift : DeviceError → HostError) :
    (∃ error after,
      onDevice target lift (allocateBuffer request.size (request.flags.contains .allocHostPtr)
        initial) host = .error error after ∧
      Across SimulatedDevice.Steady host after ∧
      ∀ handle address, after.content? handle address = host.content? handle address) ∨
    ∃ address after,
      onDevice target lift (allocateBuffer request.size (request.flags.contains .allocHostPtr)
        initial) host = .ok address after ∧
      Across SimulatedDevice.Steady host after ∧
      host.content? target address = none ∧
      ∀ handle place, after.content? handle place =
        if (handle, place) = (target, address) then
          some ⟨request.residency, initial.getD (Bytes.zeros request.size)⟩
        else host.content? handle place := by
  cases found : host.backend? target with
  | none =>
    left
    exact ⟨_, host, onDevice_of_none found, .refl SimulatedDevice.Steady.refl host,
      fun _ _ => rfl⟩
  | some device =>
    have order := (sound target device found).ordered
    rcases SimulatedDevice.selected_allocateBuffer order (request.flags.contains .allocHostPtr)
      initial whole with ⟨cause, _, failed⟩ | ⟨address, heap, done, ordered, fresh, _, view⟩
    · left
      refine ⟨_, _, onDevice_of_error found failed,
        .setBackend SimulatedDevice.Steady.refl found
          device.alike_visited.steady, fun handle place => ?_⟩
      rw [content?_setBackend found]
      split
      · rename_i here
        rw [here, content?_of_backend? found]
        rfl
      · rfl
    · right
      have absent := order.content?_of_next_le fresh
      refine ⟨address, _, onDevice_of_ok found done,
        .setBackend SimulatedDevice.Steady.refl found
          (.of_heap rfl ordered fun place bytes live => ⟨bytes, ?_, rfl⟩), ?_,
        fun handle place => ?_⟩
      · have other : place ≠ address := by
          rintro rfl
          rw [absent] at live
          cases live
        exact (view place).trans ((if_neg other).trans live)
      · rw [content?_of_backend? found, absent]
      · rw [content?_setBackend found]
        by_cases here : handle = target
        · subst here
          simp only [if_true, view, content?_of_backend? found, Prod.mk.injEq, true_and]
          rfl
        · simp [here]

/-- **Allocating on every device** gives a fresh place on each, or gives back all places. -/
theorem allocatePlaces_run {places : List (DeviceHandle × Address)} (devices : List DeviceHandle)
    (sound : ∀ handle device, host.backend? handle = some device → device.Sound)
    (request : BufferRequest) {initial : Option Bytes}
    (whole : ∀ data ∈ initial, data.length = request.size) (data : host.ArePlaces places) :
    (∃ error after, allocatePlaces request initial places devices host = .error error after ∧
      Across SimulatedDevice.Steady host after ∧
      ∀ handle address, after.content? handle address =
        if (handle, address) ∈ places then none else host.content? handle address) ∨
    ∃ made after, allocatePlaces request initial places devices host = .ok (places ++ made) after ∧
      Across SimulatedDevice.Steady host after ∧ made.map Prod.fst = devices ∧
      (∀ place ∈ made, host.content? place.1 place.2 = none) ∧
      ∀ handle address, after.content? handle address =
        if (handle, address) ∈ made then
          some ⟨request.residency, initial.getD (Bytes.zeros request.size)⟩
        else host.content? handle address := by
  induction devices generalizing host places with
  | nil =>
    right
    refine ⟨[], host, ?_, .refl SimulatedDevice.Steady.refl host, rfl, List.forall_mem_nil _,
      fun _ _ => by simp⟩
    rw [List.append_nil]
    rfl
  | cons target rest ih =>
    unfold allocatePlaces
    rcases allocatePlace_run sound request whole target
      (fun cause => .memAllocation (host.deviceName target) cause.message) with
      ⟨error, middle, failed, across, view⟩ | ⟨address, middle, done, across, absent, view⟩
    · left
      have still : middle.ArePlaces places := fun place member bytes => by
        rw [view]
        exact data place member bytes
      obtain ⟨after, freed, more, later⟩ := freePlaces_run (across.sound sound) still
      refine ⟨error, after, ?_, across.trans (fun _ _ _ => SimulatedDevice.Steady.trans) more,
        fun handle address => by rw [later, view]⟩
      simp only [failed, freed]
    · have still : middle.ArePlaces (places ++ [(target, address)]) := by
        intro place member bytes
        rw [view]
        split
        · intro same
          exact SimulatedDevice.bufferResidency_ne_global _
            (congrArg Content.residency (Option.some.inj same))
        · rename_i other
          rcases List.mem_append.mp member with old | new
          · exact data place old bytes
          · exact absurd (List.mem_singleton.mp new) other
      simp only [done]
      rcases ih (across.sound sound) still with
        ⟨error, after, failed, more, later⟩ | ⟨made, after, ran, more, names, fresh, later⟩
      · left
        refine ⟨error, after, failed,
          across.trans (fun _ _ _ => SimulatedDevice.Steady.trans) more, fun handle place => ?_⟩
        rw [later, view]
        by_cases here : (handle, place) = (target, address)
        · cases here
          simp [absent]
        · simp [here]
      · right
        refine ⟨(target, address) :: made, after, ?_,
          across.trans (fun _ _ _ => SimulatedDevice.Steady.trans) more, ?_, ?_,
          fun handle place => ?_⟩
        · rw [ran, List.append_assoc]
          rfl
        · rw [List.map_cons, names]
        · rw [List.forall_mem_cons]
          refine ⟨absent, fun place member => ?_⟩
          have none_middle := fresh place member
          rw [view] at none_middle
          split at none_middle
          · cases none_middle
          · exact none_middle
        · rw [later, view]
          by_cases among : (handle, place) ∈ made
          · simp [among]
          · simp [among]

/-! ### The whole call -/

/-- A steady change that shows in no data is calm. -/
theorem Across.alike (across : Across SimulatedDevice.Steady before after)
    (data : ∀ handle address, after.data? handle address = before.data? handle address) :
    Across SimulatedDevice.Alike before after := by
  refine ⟨across.rest, across.faces, fun handle => ?_⟩
  refine (across.each handle).imp_right fun ⟨one, other, here, there, steady⟩ =>
    ⟨one, other, here, there, steady.sound, steady.modules, fun address => ?_⟩
  have same := data handle address
  rwa [data?_of_backend? there, data?_of_backend? here] at same

theorem data?_eq_of_content?_eq {handle : DeviceHandle} {address : Address}
    (same : after.content? handle address = before.content? handle address) :
    after.data? handle address = before.data? handle address := by
  refine Option.ext fun content => ?_
  rw [data?_eq_some_iff, data?_eq_some_iff, same]

/-- **Making a buffer** fails and leaves everything live as it was, or gives a buffer with fresh
memory on every device of the context. -/
theorem createBuffer_run (regular : host.Regular) (context : ContextHandle)
    (request : BufferRequest) :
    (∃ error after, createBuffer context request host = .error error after ∧
      Across SimulatedDevice.Steady host after ∧
      ∀ handle address, after.content? handle address = host.content? handle address) ∨
    ∃ entry initial places middle, host.registry.contexts.get? context = some entry ∧
      request.check = .ok initial ∧
      places.map Prod.fst = entry.devices ∧
      Across SimulatedDevice.Steady host middle ∧
      (∀ place ∈ places, host.content? place.1 place.2 = none) ∧
      (∀ handle address, middle.content? handle address =
        if (handle, address) ∈ places then some ⟨request.residency, request.contents⟩
        else host.content? handle address) ∧
      createBuffer context request host =
        register (fun registry => registry.addBuffer
          { context, size := request.size, flags := request.flags, places }) middle := by
  unfold createBuffer
  cases found : host.registry.contexts.checked context with
  | error error =>
    left
    exact ⟨error, host, Action.bind_of_error (check_of_error found),
      .refl SimulatedDevice.Steady.refl host, fun _ _ => rfl⟩
  | ok entry =>
    have opened : check (fun host => host.registry.contexts.checked context) host =
        .ok entry host := check_of_ok found
    rw [Action.bind_of_ok opened]
    cases passes : request.check with
    | error error =>
      left
      exact ⟨error, host, Action.bind_of_error (check_of_error rfl),
        .refl SimulatedDevice.Steady.refl host, fun _ _ => rfl⟩
    | ok initial =>
      obtain ⟨_, whole, contents⟩ := BufferRequest.check_eq_ok passes
      have checked : check (fun _ => .ok initial) host = .ok initial host := check_of_ok rfl
      rw [Action.bind_of_ok checked]
      rcases allocatePlaces_run entry.devices regular.sound request whole
        (List.forall_mem_nil _) with
        ⟨error, after, failed, across, view⟩ | ⟨places, middle, made, across, names, fresh, view⟩
      · left
        exact ⟨error, after, Action.bind_of_error failed, across, fun handle address => by
          simpa using view handle address⟩
      · right
        rw [contents] at view
        exact ⟨entry, initial, places, middle, Arena.checked_eq_ok_iff.mp found, rfl, names,
          across, fresh, view, Action.bind_of_ok made⟩

end Host

end ComputeHost
