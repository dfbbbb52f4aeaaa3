/-
**No call leaves a device selected.**

A host is at rest between calls: every device was given back as often as it was taken, was never
taken twice, and was asked for nothing while it was not taken; no launch is going on. A call that
fails half-way, on a device or between two devices, leaves the host at rest like one that succeeds.

* `Service.atRest` — every call keeps a host at rest.
* `Run.at_rest` — a host is at rest after every run.
-/

import ComputeHost.Proofs.Host.Service

namespace ComputeHost.Host

open ComputeHost.Action

variable {host before after : Host SimulatedDevice} {history : List Exchange}

/-- No device is selected or was ever misused, and no launch is going on. -/
structure AtRest (host : Host SimulatedDevice) : Prop where
  devices : ∀ handle device, host.backend? handle = some device → device.Idle
  pending : ∀ device ∈ host.pending, device.Idle
  executing : host.executing = false

theorem AtRest.serves (rest : before.AtRest) (serves : before.Serves after) : after.AtRest := by
  refine ⟨fun handle device found => ?_, fun device member => ?_, serves.executing rest.executing⟩
  · obtain ⟨one, earlier, served⟩ := serves.each.some_of found
    exact served.idle (rest.devices handle one earlier)
  · obtain ⟨one, among, served⟩ := serves.pending device member
    exact served.idle (rest.pending one among)

/-- One device was asked for something else, and is idle again. -/
theorem AtRest.setBackend (rest : host.AtRest) {handle : DeviceHandle}
    {one changed : SimulatedDevice} (found : host.backend? handle = some one)
    (idle : one.Idle → changed.Idle) : (host.setBackend handle changed).AtRest := by
  refine ⟨fun other device there => ?_, rest.pending, rest.executing⟩
  rw [backend?_setBackend, found] at there
  split at there
  · cases there
    exact idle (rest.devices handle one found)
  · exact rest.devices other device there

theorem AtRest.enumerate (rest : host.AtRest) (regular : host.Regular)
    (unlisted : host.isEnumerated = false) : host.enumerate.AtRest := by
  refine ⟨fun handle device found => ?_, List.forall_mem_nil _, rest.executing⟩
  exact rest.pending device (enumerate_origin regular unlisted found)

/-- **Every call keeps a host at rest**, whether it succeeds or fails. -/
theorem Service.atRest {call : Call} {result : Except HostError Answer}
    (service : Service before call result after) (regular : before.Regular)
    (rest : before.AtRest) : after.AtRest := by
  cases service with
  | served _ serves => exact rest.serves serves
  | failed serves => exact rest.serves serves
  | listed unlisted => exact rest.enumerate regular unlisted
  | queueMade found streamed => exact { rest.setBackend found streamed.idle with }
  | kernelMade _ => exact { rest with }
  | argumentSet _ => exact { rest with }
  | launched _ _ _ serves found ran =>
    exact { (rest.serves serves).setBackend found ran.idle with executing := rfl }

/-- **A host is at rest after every run**, and says that no launch is going on. -/
theorem Run.at_rest (run : Run history host) :
    (∀ handle device, host.backend? handle = some device →
      device.selected = false ∧ device.probe.selects = device.probe.unselects ∧
        device.probe.nestingViolations = 0 ∧ device.probe.unselectedAccesses = 0) ∧
      (step .isExecuting host).1 = .ok (.truth false) := by
  have rest : host.AtRest := by
    induction run with
    | start settings devices =>
      refine ⟨fun _ _ found => absurd found.symm (Option.some_ne_none _),
        fun device member => ?_, rfl⟩
      obtain ⟨given, _, rfl⟩ := List.mem_map.mp member
      exact SimulatedDevice.idle_new given.1 given.2
    | call run call rest => exact (step_service _ call).atRest run.regular rest
    | turn _ position switch rest => exact rest.serves (serves_turn _ position switch)
  refine ⟨fun handle device found => ?_, ?_⟩
  · have idle := rest.devices handle device found
    exact ⟨idle.unselected, idle.balanced, idle.unnested, idle.orderly⟩
  · show Except.ok (Answer.truth host.executing) = .ok (.truth false)
    rw [rest.executing]

/-- A buffer is asked for on two devices, of which the second has no room for it. -/
def backingOut : List Call :=
  [.platformIds, .createContext [⟨0, 1⟩, ⟨1, 1⟩] false, .createBuffer ⟨0, 1⟩ ⟨.readOnly, 8, none⟩]

/-- The first device, selected to allocate and to give back, is at rest after the buffer was refused
by the second. -/
theorem at_rest_backingOut :
    (step (.createBuffer ⟨0, 1⟩ ⟨.readOnly, 8, none⟩)
        (run (backingOut.take 2) (twin 64 4)).2).1.isOk = false ∧
      ∃ device, (run backingOut (twin 64 4)).2.backend? ⟨0, 1⟩ = some device ∧
        device.probe.selects = 2 ∧ device.selected = false ∧
        device.probe.selects = device.probe.unselects ∧
        (step .isExecuting (run backingOut (twin 64 4)).2).1 = .ok (.truth false) := by
  have refused : (step (.createBuffer ⟨0, 1⟩ ⟨.readOnly, 8, none⟩)
      (run (backingOut.take 2) (twin 64 4)).2).1.isOk = false := by decide +kernel
  have twice : ((run backingOut (twin 64 4)).2.backend? ⟨0, 1⟩).map
      (fun device => device.probe.selects) = some 2 := by decide +kernel
  obtain ⟨device, found, selects⟩ := Option.map_eq_some_iff.mp twice
  obtain ⟨rest, still⟩ := Run.at_rest (run_twin 64 4 backingOut)
  obtain ⟨unselected, balanced, _⟩ := rest ⟨0, 1⟩ device found
  exact ⟨refused, device, found, selects, unselected, balanced, still⟩

end ComputeHost.Host
