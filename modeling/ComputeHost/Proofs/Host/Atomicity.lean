/-
**A buffer is made as a whole or not at all.**

A buffer is allocated on the devices of its context one after the other, and any of them may have no
room. However far a call came before it failed, it leaves nothing behind; and when it succeeds, all
that is new is one place on each device.

* `BufferMade` — what there is after a buffer was made.
* `Run.buffers_whole` — every call that makes a buffer does one of the two, after every run.
-/

import ComputeHost.Proofs.Host.Run

namespace ComputeHost

/-- The buffer that a request asks for, at the given places. -/
def BufferRequest.buffer (request : BufferRequest) (context : ContextHandle)
    (places : List (DeviceHandle × Address)) : Buffer :=
  { context, size := request.size, flags := request.flags, places }

namespace Host

variable {history : List Exchange} {host after : Host SimulatedDevice} {context : ContextHandle}
  {request : BufferRequest}

/-- Where all that is live shows the same, every device holds what it held. -/
theorem Across.untouched (across : Across SimulatedDevice.Steady host after)
    (regular : host.Regular)
    (same : ∀ handle address, after.content? handle address = host.content? handle address) :
    Across SimulatedDevice.Untouched host after := by
  refine ⟨across.rest, across.faces, fun handle => (across.each handle).imp_right
    fun ⟨device, later, here, there, steady⟩ => ⟨device, later, here, there, ?_⟩⟩
  have sound := regular.sound handle device here
  refine .of_content sound.ordered (steady.sound sound).ordered steady.modules fun address => ?_
  rw [← content?_of_backend? there, ← content?_of_backend? here]
  exact same handle address

/-- What there is after a buffer was made: one more buffer, listed in its context; on each device of
the context, in order, a place that was free and holds the first contents now; and all else as it
was. -/
structure BufferMade (host : Host SimulatedDevice) (context : ContextHandle)
    (request : BufferRequest) (entry : Context) (places : List (DeviceHandle × Address))
    (handle : BufferHandle) (after : Host SimulatedDevice) : Prop where
  objects : after.registry.buffers.objects =
    host.registry.buffers.objects ++ [request.buffer context places]
  /-- The handle gives the new buffer, unless handles have run out and it named another before. -/
  named : after.registry.buffers.get? handle =
    (host.registry.buffers.get? handle).or (some (request.buffer context places))
  rest : ∃ devices, after = { host with
    registry := { (host.registry.addBuffer (request.buffer context places)).2 with devices } }
  faces : after.registry.devices.faces Device.platform =
    host.registry.devices.faces Device.platform
  devices : places.map Prod.fst = entry.devices
  distinct : entry.devices.Nodup
  free : ∀ place ∈ places, host.content? place.1 place.2 = none
  filled : ∀ place ∈ places,
    after.content? place.1 place.2 = some ⟨request.residency, request.contents⟩
  others : ∀ device address, (device, address) ∉ places →
    after.content? device address = host.content? device address

/-- Where the places of a buffer are filled, listing it is all that is left to do. -/
theorem BufferMade.of_listed {entry : Context} {places : List (DeviceHandle × Address)}
    {middle : Host SimulatedDevice} (regular : host.Regular)
    (there : host.registry.contexts.get? context = some entry)
    (devices : places.map Prod.fst = entry.devices)
    (across : Across SimulatedDevice.Steady host middle)
    (free : ∀ place ∈ places, host.content? place.1 place.2 = none)
    (view : ∀ handle address, middle.content? handle address =
      if (handle, address) ∈ places then some ⟨request.residency, request.contents⟩
      else host.content? handle address) :
    BufferMade host context request entry places
      (host.registry.addBuffer (request.buffer context places)).1
      { middle with
        registry := (middle.registry.addBuffer (request.buffer context places)).2 } := by
  have packed := regular.packed.buffers
  have faces := across.faces
  obtain ⟨replaced, rfl⟩ := across.rest
  refine ⟨packed.objects_insert _, ?_, ⟨replaced, rfl⟩, faces, devices,
    (regular.contexts context entry there).2.1, free, fun place member => ?_,
    fun device address absent => ?_⟩
  · exact (packed.get?_insert _ _).trans (congrArg _ (if_pos rfl))
  · exact (view place.1 place.2).trans (if_pos member)
  · exact (view device address).trans (if_neg absent)

/-- **A buffer is made as a whole or not at all.** After every run, a call that makes a buffer and
fails, at its checks or on any of the devices, leaves every object, and all that is live on any
device; one that succeeds gives a new buffer with one fresh place on each device of its context,
which holds the bytes that were to be copied, or zeros. -/
theorem Run.buffers_whole (run : Run history host) (context : ContextHandle)
    (request : BufferRequest) :
    (∀ error after, step (.createBuffer context request) host = (.error error, after) →
      Across SimulatedDevice.Untouched host after) ∧
    ∀ answer after, step (.createBuffer context request) host = (.ok answer, after) →
      ∃ entry places handle, host.registry.contexts.get? context = some entry ∧
        answer = .handle handle ∧ BufferMade host context request entry places handle after ∧
        request.contents.length = request.size ∧
        (request.flags.contains .copyHostPtr = true → ∃ data, request.data = some data ∧
          request.contents = data.take request.size) ∧
        (request.flags.contains .copyHostPtr = false →
          request.contents = Bytes.zeros request.size) := by
  have regular := run.regular
  rcases createBuffer_run regular context request with
    ⟨error, after, failed, across, view⟩ |
      ⟨entry, initial, places, middle, there, passes, devices, across, free, view, done⟩
  · rw [step_of_error (Action.map_of_error failed)]
    refine ⟨fun _ _ outcome => ?_, fun _ _ outcome => nomatch outcome⟩
    cases outcome
    exact across.untouched regular view
  · have made : createBuffer context request host = .ok
        (middle.registry.addBuffer (request.buffer context places)).1
        { middle with
          registry := (middle.registry.addBuffer (request.buffer context places)).2 } := done
    have handle : (middle.registry.addBuffer (request.buffer context places)).1 =
        (host.registry.addBuffer (request.buffer context places)).1 := by
      unfold Registry.addBuffer
      rw [across.buffers]
    rw [handle] at made
    rw [step_of_ok (Action.map_of_ok made)]
    refine ⟨fun _ _ outcome => (nomatch outcome), fun answer after outcome => ?_⟩
    cases outcome
    obtain ⟨copied, zeros⟩ := BufferRequest.contents_of_check passes
    refine ⟨entry, places, _, there, rfl, .of_listed regular there devices across free view,
      BufferRequest.length_contents passes, fun flagged => ?_, fun plain => (zeros plain).2⟩
    obtain ⟨data, given, _, same⟩ := copied flagged
    exact ⟨data, given, same⟩

/-- Two devices, of which the second has room for one buffer of three bytes only. -/
def filling : List Call :=
  [.platformIds, .createContext [⟨0, 1⟩, ⟨1, 1⟩] false,
    .createBuffer ⟨0, 1⟩ ⟨.copyHostPtr, 3, some [1, 2, 3, 4]⟩]

/-- The buffer is made on both devices with the first three of the four bytes; another one is
refused by the second device, and leaves nothing on the first. -/
theorem buffers_whole_filling :
    (∃ (places : List (DeviceHandle × Address)) (handle : BufferHandle)
        (after : Host SimulatedDevice),
      step (.createBuffer ⟨0, 1⟩ ⟨.copyHostPtr, 3, some [1, 2, 3, 4]⟩)
        (run (filling.take 2) (twin 64 4)).2 = (.ok (.handle handle), after) ∧
      places.map Prod.fst = [⟨0, 1⟩, ⟨1, 1⟩] ∧
      ∀ place ∈ places, after.content? place.1 place.2 = some ⟨.deviceOnly, [1, 2, 3]⟩) ∧
    ∃ error after, step (.createBuffer ⟨0, 1⟩ ⟨.readOnly, 2, none⟩)
        (run filling (twin 64 4)).2 = (.error error, after) ∧
      Across SimulatedDevice.Untouched (run filling (twin 64 4)).2 after := by
  constructor
  · have granted : (step (.createBuffer ⟨0, 1⟩ ⟨.copyHostPtr, 3, some [1, 2, 3, 4]⟩)
        (run (filling.take 2) (twin 64 4)).2).1.isOk = true := by decide +kernel
    have listed : ((run (filling.take 2) (twin 64 4)).2.registry.contexts.get? ⟨0, 1⟩).map
        Context.devices = some [⟨0, 1⟩, ⟨1, 1⟩] := by decide +kernel
    cases outcome : step (.createBuffer ⟨0, 1⟩ ⟨.copyHostPtr, 3, some [1, 2, 3, 4]⟩)
      (run (filling.take 2) (twin 64 4)).2 with
    | mk result after =>
      rw [outcome] at granted
      cases result with
      | error error => cases granted
      | ok answer =>
        obtain ⟨entry, places, handle, there, rfl, made, -⟩ :=
          (Run.buffers_whole (run_twin 64 4 (filling.take 2)) _ _).2 answer after outcome
        rw [there] at listed
        exact ⟨places, handle, after, rfl, made.devices.trans (Option.some.inj listed), made.filled⟩
  · have refused : (step (.createBuffer ⟨0, 1⟩ ⟨.readOnly, 2, none⟩)
        (run filling (twin 64 4)).2).1.isOk = false := by decide +kernel
    cases outcome : step (.createBuffer ⟨0, 1⟩ ⟨.readOnly, 2, none⟩)
      (run filling (twin 64 4)).2 with
    | mk result after =>
      rw [outcome] at refused
      cases result with
      | ok answer => cases refused
      | error error =>
        exact ⟨error, after, rfl,
          (Run.buffers_whole (run_twin 64 4 filling) _ _).1 error after outcome⟩

end Host

end ComputeHost
