/-
**The devices behind a host.**

A host is looked at through what each of its devices holds: `Host.backend?` is the device behind a
handle, `Host.content?` and `Host.data?` what is live there, `Host.modulesOn` its modules.

* `onDevice_of_ok`, `onDevice_of_error` — an operation replaces the device behind one handle.
* `Host.Each`, `Host.Across` — each device changed by a relation, and perhaps nothing else did.
-/

import ComputeHost.Host.Call
import ComputeHost.Proofs.Arena.Face
import ComputeHost.Proofs.Device.Relocation

namespace ComputeHost

namespace Host

variable {δ α : Type}

/-- The device behind a handle. -/
def backend? (host : Host δ) (handle : DeviceHandle) : Option δ :=
  (host.registry.devices.get? handle).map Device.backend

/-! ### Checks -/

section

variable {host after : Host δ} {look : Host δ → Except HostError α} {value : α} {error : HostError}

theorem check_of_ok (passes : look host = .ok value) : check look host = .ok value host := by
  unfold check
  rw [passes]

theorem check_of_error (fails : look host = .error error) :
    check look host = .error error host := by
  unfold check
  rw [fails]

theorem check_eq_ok_iff :
    check look host = .ok value after ↔ look host = .ok value ∧ after = host := by
  unfold check
  cases look host with
  | ok result => simp [eq_comm]
  | error cause => simp

theorem check_eq_error_iff :
    check look host = .error error after ↔ look host = .error error ∧ after = host := by
  unfold check
  cases look host with
  | ok result => simp
  | error cause => simp [eq_comm]

/-- Dropping what a look gives is a look. -/
theorem discard_check (look : Host δ → Except HostError α) :
    (discard (check look) : HostAction δ PUnit) = check fun host => discard (look host) := by
  funext host
  cases looked : look host with
  | ok value =>
    have dropped : check (fun host => discard (look host)) host = .ok ⟨⟩ host :=
      check_of_ok (by rw [looked]; rfl)
    rw [dropped]
    exact Action.map_of_ok (check_of_ok looked)
  | error error =>
    have dropped : check (fun host => discard (look host)) host = .error error host :=
      check_of_error (by rw [looked]; rfl)
    rw [dropped]
    exact Action.map_of_error (check_of_error looked)

end

/-! ### Replacing a device -/

theorem backend?_setBackend (host : Host δ) (target handle : DeviceHandle) (backend : δ) :
    (host.setBackend target backend).backend? handle =
      if handle = target then (host.backend? target).map fun _ => backend
      else host.backend? handle := by
  unfold backend? setBackend
  simp only [Arena.get?_modify]
  split
  · rw [Option.map_map, Option.map_map]
    rfl
  · rfl

/-- Replacing a device leaves it in its place. -/
theorem faces_setBackend (host : Host δ) (target : DeviceHandle) (backend : δ) :
    (host.setBackend target backend).registry.devices.faces Device.platform =
      host.registry.devices.faces Device.platform := by
  unfold setBackend
  exact Arena.faces_modify (by simp) host.registry.devices target

/-- A handle is live if there is a device behind it. -/
theorem checked_of_backend? {host : Host δ} {handle : DeviceHandle} {backend : δ}
    (found : host.backend? handle = some backend) :
    ∃ device, host.registry.devices.checked handle = .ok device ∧ device.backend = backend := by
  obtain ⟨device, live, same⟩ := Option.map_eq_some_iff.mp found
  exact ⟨device, Arena.checked_eq_ok_iff.mpr live, same⟩

theorem backend?_of_checked {host : Host δ} {handle : DeviceHandle} {device : Device δ}
    (found : host.registry.devices.checked handle = .ok device) :
    host.backend? handle = some device.backend := by
  unfold backend?
  rw [Arena.checked_eq_ok_iff.mp found]
  rfl

section

variable [DeviceDriver δ] {host after : Host δ} {handle : DeviceHandle}
  {lift : DeviceError → HostError} {action : DeviceAction δ α} {backend changed : δ} {value : α}
  {cause : DeviceError}

theorem onDevice_of_ok (found : host.backend? handle = some backend)
    (done : DeviceDriver.selected action backend = .ok value changed) :
    onDevice handle lift action host = .ok value (host.setBackend handle changed) := by
  obtain ⟨device, live, rfl⟩ := checked_of_backend? found
  unfold onDevice
  rw [live]
  simp only
  rw [done]

theorem onDevice_of_error (found : host.backend? handle = some backend)
    (failed : DeviceDriver.selected action backend = .error cause changed) :
    onDevice handle lift action host = .error (lift cause) (host.setBackend handle changed) := by
  obtain ⟨device, live, rfl⟩ := checked_of_backend? found
  unfold onDevice
  rw [live]
  simp only
  rw [failed]

theorem onDevice_of_none (absent : host.backend? handle = none) :
    onDevice handle lift action host = .error (.invalidHandle .device) host := by
  have dead : host.registry.devices.get? handle = none := by
    unfold backend? at absent
    rwa [Option.map_eq_none_iff] at absent
  unfold onDevice Arena.checked
  rw [dead]

/-- An operation changes nothing but devices, however it ends. -/
theorem final_onDevice (host : Host δ) (handle : DeviceHandle) (lift : DeviceError → HostError)
    (action : DeviceAction δ α) : ∃ devices, Action.final (onDevice handle lift action host) =
      { host with registry := { host.registry with devices } } := by
  cases found : host.backend? handle with
  | none => exact ⟨_, congrArg Action.final (onDevice_of_none found)⟩
  | some backend =>
    cases outcome : DeviceDriver.selected action backend with
    | ok value changed => exact ⟨_, congrArg Action.final (onDevice_of_ok found outcome)⟩
    | error cause changed => exact ⟨_, congrArg Action.final (onDevice_of_error found outcome)⟩

end

/-! ### Changes of devices -/

/-- Each device changed by the relation, and none came or went. -/
def Each (relation : δ → δ → Prop) (before after : Host δ) : Prop :=
  ∀ handle, (before.backend? handle = none ∧ after.backend? handle = none) ∨
    ∃ one other, before.backend? handle = some one ∧ after.backend? handle = some other ∧
      relation one other

namespace Each

variable {relation : δ → δ → Prop} {before middle after : Host δ} {handle : DeviceHandle}
  {backend : δ}

theorem refl (reflexive : ∀ device, relation device device) (host : Host δ) :
    Each relation host host := by
  intro handle
  cases found : host.backend? handle with
  | none => exact .inl ⟨rfl, rfl⟩
  | some device => exact .inr ⟨device, device, rfl, rfl, reflexive device⟩

theorem trans (transitive : ∀ one two three, relation one two → relation two three →
      relation one three)
    (first : Each relation before middle) (second : Each relation middle after) :
    Each relation before after := by
  intro handle
  rcases first handle with ⟨none_before, none_middle⟩ | ⟨one, two, here, there, step⟩
  · rcases second handle with ⟨_, none_after⟩ | ⟨_, _, some_middle, _⟩
    · exact .inl ⟨none_before, none_after⟩
    · rw [none_middle] at some_middle
      cases some_middle
  · rcases second handle with ⟨none_middle, _⟩ | ⟨two', three, here', there', step'⟩
    · rw [there] at none_middle
      cases none_middle
    · obtain rfl := Option.some.inj (there.symm.trans here')
      exact .inr ⟨one, three, here, there', transitive _ _ _ step step'⟩

theorem imp {stronger : δ → δ → Prop} (implies : ∀ one other, stronger one other →
      relation one other) (each : Each stronger before after) : Each relation before after :=
  fun handle => (each handle).imp_right
    fun ⟨one, other, here, there, step⟩ => ⟨one, other, here, there, implies _ _ step⟩

theorem isSome_eq (each : Each relation before after) (handle : DeviceHandle) :
    (after.backend? handle).isSome = (before.backend? handle).isSome := by
  rcases each handle with ⟨here, there⟩ | ⟨_, _, here, there, _⟩
  · rw [here, there]
  · rw [here, there]
    rfl

theorem some_of (each : Each relation before after) (found : after.backend? handle = some backend) :
    ∃ one, before.backend? handle = some one ∧ relation one backend := by
  rcases each handle with ⟨_, there⟩ | ⟨one, other, here, there, step⟩
  · rw [found] at there
    cases there
  · obtain rfl := Option.some.inj (found.symm.trans there)
    exact ⟨one, here, step⟩

/-- One device is replaced. -/
theorem setBackend (reflexive : ∀ device, relation device device) {host : Host δ} {changed : δ}
    (found : host.backend? handle = some backend) (step : relation backend changed) :
    Each relation host (host.setBackend handle changed) := by
  intro other
  rw [backend?_setBackend]
  by_cases here : other = handle
  · subst here
    rw [if_pos rfl, found]
    exact .inr ⟨backend, changed, rfl, rfl, step⟩
  · rw [if_neg here]
    exact refl reflexive host other

end Each

/-- Nothing but devices changed, and each of them by the relation. -/
structure Across (relation : δ → δ → Prop) (before after : Host δ) : Prop where
  rest : ∃ devices, after = { before with registry := { before.registry with devices } }
  /-- The devices are listed as they were. -/
  faces : after.registry.devices.faces Device.platform =
    before.registry.devices.faces Device.platform
  each : Each relation before after

namespace Across

variable {relation : δ → δ → Prop} {before middle after : Host δ}

theorem refl (reflexive : ∀ device, relation device device) (host : Host δ) :
    Across relation host host :=
  ⟨⟨host.registry.devices, rfl⟩, rfl, .refl reflexive host⟩

theorem trans (transitive : ∀ one two three, relation one two → relation two three →
      relation one three)
    (first : Across relation before middle) (second : Across relation middle after) :
    Across relation before after := by
  refine ⟨?_, second.faces.trans first.faces, first.each.trans transitive second.each⟩
  obtain ⟨devices, rfl⟩ := first.rest
  obtain ⟨devices', rfl⟩ := second.rest
  exact ⟨devices', rfl⟩

theorem imp {stronger : δ → δ → Prop} (implies : ∀ one other, stronger one other →
      relation one other) (across : Across stronger before after) :
    Across relation before after :=
  ⟨across.rest, across.faces, across.each.imp implies⟩

theorem packed (across : Across relation before after) (packed : before.registry.devices.Packed) :
    after.registry.devices.Packed :=
  Arena.packed_faces.mp (across.faces ▸ Arena.packed_faces.mpr packed)

theorem buffers (across : Across relation before after) :
    after.registry.buffers = before.registry.buffers := by
  obtain ⟨_, rfl⟩ := across.rest
  rfl

theorem setBackend (reflexive : ∀ device, relation device device) {host : Host δ}
    {handle : DeviceHandle} {backend changed : δ} (found : host.backend? handle = some backend)
    (step : relation backend changed) : Across relation host (host.setBackend handle changed) :=
  ⟨⟨_, rfl⟩, host.faces_setBackend handle changed, .setBackend reflexive found step⟩

end Across

end Host

end ComputeHost
