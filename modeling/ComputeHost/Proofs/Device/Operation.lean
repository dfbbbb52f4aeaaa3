/-
**Operations of a device, part by part.**

An operation checks that the device is selected, works on the heap, changes the modules and notes
what it did. A relation between a device and the device later that composes (`Compositional`), and
holds across each of these parts, holds across the whole operation, whether it succeeds or fails.

* `Compositional.allocateAs`, `Compositional.free`, `Compositional.write` — one change of the heap.
* `Compositional.loadModule`, `Compositional.unloadModule` — many changes of the heap, and one of
  the modules.
* `Compositional.createStream`, `Compositional.launch` — notes only.
-/

import ComputeHost.Proofs.Device.Selection

namespace ComputeHost.SimulatedDevice

open ComputeHost.Action

/-- A relation between a device and the device later that holds where nothing happens, composes, and
holds where an unselected device refuses. -/
structure Compositional (relation : SimulatedDevice → SimulatedDevice → Prop) : Prop where
  refl : ∀ device, relation device device
  trans : ∀ {device middle after}, relation device middle → relation middle after →
    relation device after
  refused : ∀ device : SimulatedDevice, device.selected = false →
    relation device
      (device.note fun probe => { probe with unselectedAccesses := probe.unselectedAccesses + 1 })

namespace Compositional

variable {relation : SimulatedDevice → SimulatedDevice → Prop} {α β : Type} {residency : Residency}
  {size : Nat} {address : Address}

theorem seq (keeps : Compositional relation) {first : DeviceAction SimulatedDevice α}
    {rest : α → DeviceAction SimulatedDevice β} (begins : Within relation first)
    (goes : ∀ value, Within relation (rest value)) : Within relation (first >>= rest) :=
  begins.bind (fun _ _ _ => keeps.trans) goes

theorem get (keeps : Compositional relation) :
    Within relation (get : DeviceAction SimulatedDevice SimulatedDevice) := keeps.refl

theorem ensureSelected (keeps : Compositional relation) :
    Within relation SimulatedDevice.ensureSelected := by
  intro device
  cases bound : device.selected with
  | true =>
    rw [ensureSelected_of_selected bound]
    exact keeps.refl device
  | false =>
    rw [ensureSelected_of_unselected bound]
    exact keeps.refused device bound

/-! ### One operation on the heap -/

theorem onHeap (keeps : Compositional relation) {action : HeapAction α}
    (stays : ∀ {heap after : Heap} {cause}, action heap = .error cause after → after = heap)
    (moves : ∀ (device : SimulatedDevice) value heap, action device.heap = .ok value heap →
      relation device { device with heap }) :
    Within relation (SimulatedDevice.onHeap action) := by
  intro device
  unfold SimulatedDevice.onHeap
  cases outcome : action device.heap with
  | ok value heap => exact moves device value heap outcome
  | error cause heap =>
    obtain rfl := stays outcome
    exact keeps.refl device

theorem allocateAs (keeps : Compositional relation)
    (moves : ∀ (device : SimulatedDevice) address heap,
      Heap.allocate size residency device.heap = .ok address heap →
        relation device { device with heap }) :
    Within relation (SimulatedDevice.allocateAs residency size) := by
  refine keeps.seq keeps.ensureSelected fun _ => keeps.seq keeps.get fun device => ?_
  split
  · exact keeps.refl
  · exact keeps.onHeap (fun failed => (Heap.allocate_eq_error_iff.mp failed).2.2) moves

theorem free (keeps : Compositional relation)
    (moves : ∀ (device : SimulatedDevice) heap, Heap.free address device.heap = .ok () heap →
      relation device { device with heap }) :
    Within relation (SimulatedDevice.free address) :=
  keeps.seq keeps.ensureSelected fun _ =>
    keeps.onHeap Heap.free_eq_error fun device _ heap done => moves device heap done

theorem write (keeps : Compositional relation) {offset : Nat} {data : Block}
    (moves : ∀ (device : SimulatedDevice) heap,
      Heap.write address offset data device.heap = .ok () heap →
        relation device { device with heap }) :
    Within relation (SimulatedDevice.write address offset data) :=
  keeps.seq keeps.ensureSelected fun _ =>
    keeps.onHeap Heap.write_eq_error fun device _ heap done => moves device heap done

theorem read (keeps : Compositional relation) (address : Address) (offset length : Nat) :
    Within relation (SimulatedDevice.read address offset length) := by
  refine keeps.seq keeps.ensureSelected fun _ =>
    keeps.onHeap Heap.read_eq_error fun device _ heap done => ?_
  obtain ⟨rfl, _⟩ := Heap.read_eq_ok done
  exact keeps.refl device

/-! ### Operations in several parts -/

theorem placeGlobals (keeps : Compositional relation)
    (allocates : ∀ size, Within relation (SimulatedDevice.allocateAs .global size))
    (writes : ∀ address data, Within relation (SimulatedDevice.write address 0 data))
    (globals : List GlobalVariable) : Within relation (SimulatedDevice.placeGlobals globals) := by
  induction globals with
  | nil => exact keeps.refl
  | cons global rest ih =>
    refine keeps.seq (allocates _) fun address => ?_
    have finish : Within relation (do
        return (global.name, address) :: (← SimulatedDevice.placeGlobals rest) :
          DeviceAction SimulatedDevice (List (String × Address))) :=
      keeps.seq ih fun _ => keeps.refl
    split
    · exact keeps.seq (writes _ _) fun _ => finish
    · exact finish

theorem loadModule (keeps : Compositional relation) {module : KernelModule}
    (places : Within relation (SimulatedDevice.placeGlobals module.globals))
    (adds : ∀ (device : SimulatedDevice) globals,
      relation device
        { device with
          modules := device.modules ++ [⟨module, globals⟩]
          probe := { device.probe with loads := device.probe.loads ++ [module.name] } }) :
    Within relation (SimulatedDevice.loadModule module) := by
  refine keeps.seq keeps.ensureSelected fun _ => keeps.seq keeps.get fun device => ?_
  split
  · exact keeps.seq places fun globals device => adds device globals
  · exact keeps.refl

theorem freeAll (keeps : Compositional relation) {addresses : List Address}
    (frees : ∀ address ∈ addresses, Within relation (SimulatedDevice.free address)) :
    Within relation (SimulatedDevice.freeAll addresses) := by
  induction addresses with
  | nil => exact keeps.refl
  | cons address rest ih =>
    obtain ⟨first, later⟩ := List.forall_mem_cons.mp frees
    exact keeps.seq first fun _ => ih later

/-- Unloading frees the storage of the module that the device holds under the name. -/
theorem unloadModule_at (keeps : Compositional relation) {name : String}
    {device : SimulatedDevice}
    (frees : ∀ loaded, device.loaded? name = some loaded →
      ∀ address ∈ loaded.globals.map Prod.snd, Within relation (SimulatedDevice.free address))
    (strips : ∀ device : SimulatedDevice,
      relation device
        { device with modules := device.modules.filter fun other => other.module.name ≠ name })
    (notes : ∀ device : SimulatedDevice,
      relation device
        (device.note fun probe => { probe with unloads := probe.unloads ++ [name] })) :
    relation device (final (SimulatedDevice.unloadModule name device)) := by
  have stripping : Within relation (modify fun device : SimulatedDevice =>
      { device with
        modules := device.modules.filter fun other => other.module.name ≠ name } :
        DeviceAction SimulatedDevice PUnit) := strips
  have noting : Within relation (modify fun device : SimulatedDevice =>
      device.note fun probe => { probe with unloads := probe.unloads ++ [name] } :
        DeviceAction SimulatedDevice PUnit) := notes
  have got : (MonadState.get : DeviceAction SimulatedDevice SimulatedDevice) device =
    .ok device device := rfl
  unfold SimulatedDevice.unloadModule
  cases bound : device.selected with
  | false =>
    rw [bind_of_error (ensureSelected_of_unselected bound)]
    exact keeps.refused device bound
  | true =>
    rw [bind_of_ok (ensureSelected_of_selected bound), bind_of_ok got]
    cases held : device.loaded? name with
    | none => exact noting device
    | some loaded =>
      exact keeps.seq stripping (fun _ => keeps.seq (keeps.freeAll (frees loaded held))
        fun _ => noting) device

theorem unloadModule (keeps : Compositional relation) {name : String}
    (frees : ∀ address, Within relation (SimulatedDevice.free address))
    (strips : ∀ device : SimulatedDevice,
      relation device
        { device with modules := device.modules.filter fun other => other.module.name ≠ name })
    (notes : ∀ device : SimulatedDevice,
      relation device
        (device.note fun probe => { probe with unloads := probe.unloads ++ [name] })) :
    Within relation (SimulatedDevice.unloadModule name) :=
  fun _ => keeps.unloadModule_at (fun _ _ address _ => frees address) strips notes

theorem createStream (keeps : Compositional relation)
    (notes : ∀ device : SimulatedDevice,
      relation device (device.note fun probe => { probe with streams := probe.streams + 1 })) :
    Within relation SimulatedDevice.createStream := by
  intro device
  cases bound : device.selected with
  | true =>
    rw [createStream_of_selected bound]
    split
    · exact keeps.refl device
    · exact notes device
  | false =>
    unfold SimulatedDevice.createStream
    rw [bind_of_error (ensureSelected_of_unselected bound)]
    exact keeps.refused device bound

theorem checkLaunch (keeps : Compositional relation) (request : LaunchRequest) :
    Within relation (SimulatedDevice.checkLaunch request) := by
  refine keeps.seq keeps.ensureSelected fun _ => keeps.seq keeps.get fun device => ?_
  split
  · exact keeps.refl
  · split <;> exact keeps.refl

/-- A launch uses the armed fault up, and leaves a record if there was none. -/
theorem launch (keeps : Compositional relation)
    (disarms : ∀ device : SimulatedDevice,
      relation device { device with switches := { device.switches with launchFault := none } })
    (notes : ∀ (device : SimulatedDevice) record,
      relation device
        (device.note fun probe => { probe with launches := probe.launches ++ [record] }))
    (request : LaunchRequest) (device : SimulatedDevice) :
    relation device (SimulatedDevice.launch request device).2 := by
  have checks := keeps.checkLaunch request device
  unfold SimulatedDevice.launch
  cases outcome : SimulatedDevice.checkLaunch request device with
  | error cause after =>
    rw [outcome] at checks
    exact checks
  | ok _ after =>
    rw [outcome] at checks
    have disarmed := keeps.trans checks (disarms after)
    simp only
    split
    · exact disarmed
    · exact keeps.trans disarmed (notes _ _)

end Compositional

end ComputeHost.SimulatedDevice
