/-
**Runs with their hosts.**

The history of a run tells what was asked and answered. A course also keeps the host that each call
was made on, so that what a later host holds can be said in terms of the hosts before it.

* `Course.run` — a course is a run.
* `lastSet` — the bytes that a history says were last set for an argument.
* `Run.recalls` — the arguments of every kernel are the bytes last set.
-/

import ComputeHost.Proofs.Host.Service

namespace ComputeHost.Host

open ComputeHost.Action

variable {host before after : Host SimulatedDevice} {history : List Exchange}

/-- A call and the host that it was made on. -/
structure Stage where
  host : Host SimulatedDevice
  call : Call

/-- The call with its result. -/
def Stage.exchange (stage : Stage) : Exchange := ⟨stage.call, (step stage.call stage.host).1⟩

/-- The hosts that can be reached, with the calls so far and the hosts they were made on, the last
in front. -/
inductive Course : List Stage → Host SimulatedDevice → Prop
  | start (settings : Settings) (devices : List (Nat × DeviceProperties)) :
      Course [] (Host.new settings (devices.map fun device => .new device.1 device.2))
  | call {stages : List Stage} {host : Host SimulatedDevice} (course : Course stages host)
      (call : Call) : Course (⟨host, call⟩ :: stages) (step call host).2
  | turn {stages : List Stage} {host : Host SimulatedDevice} (course : Course stages host)
      (position : Nat) (switch : SimulatedDevice.Switch) :
      Course stages (host.adjust position fun device => device.turn switch)

theorem Course.run {stages : List Stage} (course : Course stages host) :
    Run (stages.map Stage.exchange) host := by
  induction course with
  | start settings devices => exact .start settings devices
  | call _ call run => exact run.call call
  | turn _ position switch run => exact run.turn position switch

/-- The stages of calls made one after the other, the last in front. -/
def stagesOf : List Call → Host SimulatedDevice → List Stage
  | [], _ => []
  | call :: rest, host => stagesOf rest (step call host).2 ++ [⟨host, call⟩]

/-- A list of calls continues a course. -/
theorem Course.calls {stages : List Stage} (course : Course stages host) (calls : List Call) :
    Course (stagesOf calls host ++ stages) (Host.run calls host).2 := by
  induction calls generalizing stages host with
  | nil => exact course
  | cons call rest ih =>
    have later := ih (course.call call)
    rw [stagesOf, List.append_assoc]
    exact later

/-- The calls that a host for two accelerators is given make a course. -/
theorem course_twin (first second : UInt64) (calls : List Call) :
    Course (stagesOf calls (twin first second)) (Host.run calls (twin first second)).2 := by
  have course : Course [] (twin first second) :=
    .start {} [(1, .gpu "a" first), (2, .gpu "b" second)]
  have later := course.calls calls
  rwa [List.append_nil] at later

/-! ### The arguments of kernels -/

/-- The bytes that were last set for an argument of a kernel, if any were. -/
def lastSet (kernel : KernelHandle) (index : Nat) : List Exchange → Option Bytes
  | [] => none
  | ⟨.setArgument other place value, .ok _⟩ :: earlier =>
    if other = kernel ∧ place = index then some value else lastSet kernel index earlier
  | _ :: earlier => lastSet kernel index earlier

theorem lastSet_of_error {call : Call} {error : HostError} (kernel : KernelHandle) (index : Nat) :
    lastSet kernel index (⟨call, .error error⟩ :: history) = lastSet kernel index history := by
  cases call <;> rfl

theorem lastSet_of_plain {call : Call} {result : Except HostError Answer}
    (plain : call.isPlain = true) (kernel : KernelHandle) (index : Nat) :
    lastSet kernel index (⟨call, result⟩ :: history) = lastSet kernel index history := by
  cases call <;> first | rfl | cases plain

theorem lastSet_of_set {kernel other : KernelHandle} {index place : Nat} {value : Bytes}
    {answer : Answer} :
    lastSet kernel index (⟨.setArgument other place value, .ok answer⟩ :: history) =
      if other = kernel ∧ place = index then some value else lastSet kernel index history := rfl

/-- The arguments of a kernel are what the history says was last set. -/
structure Recalls (history : List Exchange) (host : Host SimulatedDevice) : Prop where
  set : ∀ kernel made, host.registry.kernels.get? kernel = some made →
    ∀ index < made.arguments.length, made.arguments[index]? = some (lastSet kernel index history)
  /-- Nothing was set for a handle that names no kernel. -/
  unset : ∀ kernel index, host.registry.kernels.get? kernel = none →
    lastSet kernel index history = none

/-- Nothing was set, and kernels have the arguments they had. -/
theorem Recalls.kept {later : List Exchange} (recalls : Recalls history before)
    (arguments : ∀ kernel, (after.registry.kernels.get? kernel).map Kernel.arguments =
      (before.registry.kernels.get? kernel).map Kernel.arguments)
    (same : ∀ kernel index, lastSet kernel index later = lastSet kernel index history) :
    Recalls later after := by
  refine ⟨fun kernel made found index bound => ?_, fun kernel index absent => ?_⟩
  · have as_before := arguments kernel
    rw [found, Option.map_some] at as_before
    obtain ⟨one, there, alike⟩ := Option.map_eq_some_iff.mp as_before.symm
    rw [same, ← alike]
    exact recalls.set kernel one there index (alike ▸ bound)
  · have as_before := arguments kernel
    rw [absent, Option.map_none] at as_before
    rw [same]
    exact recalls.unset kernel index (Option.map_eq_none_iff.mp as_before.symm)

/-- A kernel starts without arguments, and no geometry is noted with it. -/
theorem checkKernel_fresh {program : ProgramHandle} {name : String} {kernel : Kernel}
    (passes : checkKernel program name host = .ok kernel) :
    (∃ count, kernel.arguments = List.replicate count none) ∧ kernel.geometry = none := by
  unfold checkKernel at passes
  simp only [except_bind_eq_ok_iff] at passes
  obtain ⟨entry, _, module, _, passes⟩ := passes
  split at passes
  · cases passes
  · cases passes
    exact ⟨⟨_, rfl⟩, rfl⟩

theorem Recalls.made (recalls : Recalls history before) (packed : before.registry.kernels.Packed)
    {kernel : Kernel} {count : Nat} (fresh : kernel.arguments = List.replicate count none) :
    Recalls history { before with registry := (before.registry.addKernel kernel).2 } := by
  have view : ∀ handle, (before.registry.addKernel kernel).2.kernels.get? handle =
      (before.registry.kernels.get? handle).or
        (if handle = (before.registry.kernels.insert kernel).1 then some kernel else none) :=
    fun handle => packed.get?_insert kernel handle
  refine ⟨fun handle made found index bound => ?_, fun handle index absent => ?_⟩
  · have found : (before.registry.addKernel kernel).2.kernels.get? handle = some made := found
    rw [view, Option.or_eq_some_iff] at found
    rcases found with old | ⟨absent, new⟩
    · exact recalls.set handle made old index bound
    · split at new
      · cases new
        rw [fresh, List.length_replicate] at bound
        rw [fresh, List.getElem?_replicate_of_lt bound, recalls.unset handle index absent]
      · cases new
  · have absent : (before.registry.addKernel kernel).2.kernels.get? handle = none := absent
    rw [view, Option.or_eq_none_iff] at absent
    exact recalls.unset handle index absent.1

theorem checkArgument_eq_ok {kernel : KernelHandle} {index : Nat} {value : Bytes}
    (passes : checkArgument kernel index value host = .ok ()) :
    ∃ made, host.registry.kernels.get? kernel = some made ∧ index < made.arguments.length := by
  unfold checkArgument at passes
  simp only [except_bind_eq_ok_iff, refuse_eq_ok_iff, Arena.checked_eq_ok_iff] at passes
  obtain ⟨made, there, within, _⟩ := passes
  exact ⟨made, there, Nat.lt_of_not_le within⟩

theorem Recalls.argument (recalls : Recalls history before) {kernel : KernelHandle} {index : Nat}
    {value : Bytes} {answer : Answer}
    (passes : checkArgument kernel index value before = .ok ()) :
    Recalls (⟨.setArgument kernel index value, .ok answer⟩ :: history)
      (before.withChanged kernel fun entry =>
        { entry with arguments := entry.arguments.set index (some value) }) := by
  obtain ⟨held, there, within⟩ := checkArgument_eq_ok passes
  refine ⟨fun handle made found place bound => ?_, fun handle place absent => ?_⟩
  · unfold withChanged at found
    rw [lastSet_of_set]
    simp only [Arena.get?_modify] at found
    split at found
    · rename_i here
      subst here
      rw [there, Option.map_some] at found
      cases found
      rw [List.length_set] at bound
      rw [List.getElem?_set]
      by_cases same : index = place
      · rw [if_pos same, if_pos (same ▸ bound), if_pos ⟨rfl, same⟩]
      · rw [if_neg same, if_neg fun both => same both.2]
        exact recalls.set handle held there place bound
    · rename_i other
      rw [if_neg fun both => other both.1.symm]
      exact recalls.set handle made found place bound
  · unfold withChanged at absent
    simp only [Arena.get?_modify] at absent
    rw [lastSet_of_set]
    split at absent
    · rw [there] at absent
      cases absent
    · rename_i other
      rw [if_neg fun both => other both.1.symm]
      exact recalls.unset handle place absent

theorem Service.recalls {call : Call} {result : Except HostError Answer}
    (service : Service before call result after) (regular : before.Regular)
    (recalls : Recalls history before) : Recalls (⟨call, result⟩ :: history) after := by
  cases service with
  | served plain serves => exact recalls.kept serves.arguments (lastSet_of_plain plain)
  | failed serves => exact recalls.kept serves.arguments lastSet_of_error
  | listed _ => exact recalls.kept (fun _ => rfl) fun _ _ => rfl
  | queueMade _ _ => exact recalls.kept (fun _ => rfl) fun _ _ => rfl
  | kernelMade passes =>
    obtain ⟨⟨count, fresh⟩, -⟩ := checkKernel_fresh passes
    exact (recalls.made regular.packed.kernels fresh).kept (fun _ => rfl) fun _ _ => rfl
  | argumentSet passes => exact recalls.argument passes
  | launched _ _ _ serves _ _ => exact recalls.kept serves.arguments fun _ _ => rfl

/-- **The arguments of every kernel are the bytes last set for them.** -/
theorem Run.recalls (run : Run history host) : Recalls history host := by
  induction run with
  | start settings devices =>
    exact ⟨fun _ _ found => absurd found.symm (Option.some_ne_none _), fun _ _ _ => rfl⟩
  | call run call recalls => exact (step_service _ call).recalls run.regular recalls
  | turn _ position switch recalls =>
    exact recalls.kept (serves_turn _ position switch).arguments fun _ _ => rfl

end ComputeHost.Host
