/-
**Hosts in good order.**

`Regular` gathers what every call relies on and leaves in place: handles stay good, devices are in
good order, contexts name live devices, and the table of modules agrees with the devices.

* `Agrees` — a device holds exactly the modules that the table says are loaded on it.
* `Regular.calm` — a calm call keeps all of it.
-/

import ComputeHost.Proofs.Host.Calm
import ComputeHost.Proofs.Host.Table

namespace ComputeHost.Host

variable {host before after : Host SimulatedDevice}

/-- The table of modules and the devices agree. -/
structure Agrees (host : Host SimulatedDevice) : Prop where
  named : host.modules.Named
  /-- Modules are loaded on live devices. -/
  live : ∀ module handle, host.modules.Has module handle → (host.modulesOn handle).isSome
  /-- A device holds the modules that are loaded on it. -/
  held : ∀ handle held, host.modulesOn handle = some held →
    ∀ module, module ∈ held ↔ host.modules.Has module handle

/-- A host in good order. -/
structure Regular (host : Host SimulatedDevice) : Prop where
  packed : host.registry.Packed
  sound : ∀ handle device, host.backend? handle = some device → device.Sound
  /-- Devices that are not yet listed hold nothing. -/
  pending : ∀ device ∈ host.pending, device.Blank
  /-- There are no devices before they are listed. -/
  unlisted : host.isEnumerated = false → ∀ handle, host.backend? handle = none
  agrees : host.Agrees
  /-- A context is for some devices, all different and live. -/
  contexts : ∀ handle context, host.registry.contexts.get? handle = some context →
    context.devices ≠ [] ∧ context.devices.Nodup ∧
      ∀ device ∈ context.devices, (host.backend? device).isSome
  /-- A queue is for a device of its context. -/
  queues : ∀ handle queue, host.registry.queues.get? handle = some queue →
    ∃ context, host.registry.contexts.get? queue.context = some context ∧
      queue.device ∈ context.devices

/-- A host that was just made is in good order. -/
theorem regular_new (settings : Settings) {devices : List SimulatedDevice}
    (blank : ∀ device ∈ devices, device.Blank) : (Host.new settings devices).Regular :=
  { packed := Registry.packed_empty
    sound := fun _ _ found => absurd found.symm (Option.some_ne_none _)
    pending := blank
    unlisted := fun _ _ => rfl
    agrees := ⟨List.nodup_nil, fun _ _ ⟨_, member, _⟩ => absurd member List.not_mem_nil,
      fun _ _ found => absurd found.symm (Option.some_ne_none _)⟩
    contexts := fun _ _ found => absurd found.symm (Option.some_ne_none _)
    queues := fun _ _ found => absurd found.symm (Option.some_ne_none _) }

theorem Agrees.of_eq (agrees : before.Agrees) (modules : after.modules = before.modules)
    (modulesOn : ∀ handle, after.modulesOn handle = before.modulesOn handle) : after.Agrees := by
  refine ⟨?_, ?_, ?_⟩
  · rw [modules]
    exact agrees.named
  · rw [modules]
    intro module handle has
    rw [modulesOn]
    exact agrees.live module handle has
  · rw [modules]
    intro handle held found
    rw [modulesOn] at found
    exact agrees.held handle held found

/-- A live context, by its devices. -/
theorem Calm.context_of (calm : before.Calm after) {handle : ContextHandle} {context : Context}
    (found : after.registry.contexts.get? handle = some context) :
    ∃ earlier, before.registry.contexts.get? handle = some earlier ∧
      earlier.devices = context.devices := by
  have same := calm.contexts handle
  rw [found, Option.map_some] at same
  exact Option.map_eq_some_iff.mp same.symm

theorem Calm.context_to (calm : before.Calm after) {handle : ContextHandle} {context : Context}
    (found : before.registry.contexts.get? handle = some context) :
    ∃ later, after.registry.contexts.get? handle = some later ∧
      later.devices = context.devices := by
  have same := calm.contexts handle
  rw [found, Option.map_some] at same
  exact Option.map_eq_some_iff.mp same

/-- **A calm call keeps a host in good order.** -/
theorem Regular.calm (regular : before.Regular) (calm : before.Calm after) : after.Regular := by
  refine ⟨calm.packed regular.packed, fun handle device found => ?_, fun device member => ?_,
    fun unlisted handle => ?_, regular.agrees.of_eq calm.modules calm.each.modulesOn_eq,
    fun handle context found => ?_, fun handle queue found => ?_⟩
  · obtain ⟨one, earlier, alike⟩ := calm.each.some_of found
    exact alike.sound (regular.sound handle one earlier)
  · obtain ⟨one, among, alike⟩ := calm.pending device member
    exact (regular.pending one among).alike alike
  · rw [calm.isEnumerated_eq] at unlisted
    have none_before := regular.unlisted unlisted handle
    have same := calm.each.isSome_eq handle
    rw [none_before] at same
    simpa using same
  · obtain ⟨earlier, live, same⟩ := calm.context_of found
    rw [← same]
    obtain ⟨some_devices, distinct, alive⟩ := regular.contexts handle earlier live
    refine ⟨some_devices, distinct, fun device member => ?_⟩
    rw [calm.each.isSome_eq]
    exact alive device member
  · rw [calm.queues] at found
    obtain ⟨context, live, member⟩ := regular.queues handle queue found
    obtain ⟨later, live, same⟩ := calm.context_to live
    exact ⟨later, live, same ▸ member⟩

end ComputeHost.Host
