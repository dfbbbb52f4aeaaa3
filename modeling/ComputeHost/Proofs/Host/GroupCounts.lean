/-
**What the group counts of a kernel report.**

The group counts of a kernel are to be those of its last launch, and zeros before the first. But a
launch notes its geometry with the kernel once its handles, its range and its events are accepted,
and before its program and its arguments are looked at. So what is reported are the counts of the
last launch that was accepted, which need not have come to a device; every launch that did was
accepted.

* `Stage.Accepts` — the call is a launch that passes every guard in front of the noting.
* `geometryOf_step` — a call notes a geometry where it is such a launch, and else leaves them all.
* `Course.geometryOf` — what is noted with a kernel is what was last accepted.
* `launchedCounts`, `Strays` — the counts of the last launch that came to a device, and when the
  last one that was accepted has others.
* `Course.group_counts` — what is reported, and exactly when it is not of the last launch.
-/

import ComputeHost.Proofs.Host.Attachment
import ComputeHost.Proofs.Host.Normalization
import ComputeHost.Proofs.Host.Precedence

namespace ComputeHost.Host

open ComputeHost.Action

variable {before : Host SimulatedDevice} {stages : List Stage}
  {queue : QueueHandle} {kernel : KernelHandle} {range : LaunchRange} {waits : WaitList}
  {geometry : Geometry}

/-! ### Launches that are accepted -/

/-- A launch that passes its first checks violates none of their guards. -/
theorem not_violates_of_checkLaunch {host : Host SimulatedDevice} {found : Queue × Geometry}
    (passed : checkLaunch queue kernel range waits host = .ok found) {guard : Guard} {index : Nat}
    {error : HostError} (early : guard.isEarly = true) :
    ¬ Violates host queue kernel range waits guard index error := by
  intro violated
  obtain ⟨first, place, cause, holds, before⟩ := exists_isFirst ⟨guard, index, error, violated⟩
  have early : guard.rank ≤ 12 := of_decide_eq_true early
  have within : first.rank < 13 := by
    by_contra beyond
    exact before guard index error (.inl (by omega)) violated
  have failed := settles_checkLaunch.fails (Nat.zero_le _) within holds
    fun earlier place cause _ => before earlier place cause
  cases passed.symm.trans failed

/-- The call is a launch of the kernel with this geometry, and its handles, contexts, range and
events are in order, and an argument of the kernel is set. -/
inductive Stage.Accepts (kernel : KernelHandle) (geometry : Geometry) : Stage → Prop
  | launch {host : Host SimulatedDevice} {queue : QueueHandle} {range : LaunchRange}
      {waits : WaitList}
      (clear : ∀ guard index error, guard.isEarly = true →
        ¬ Violates host queue kernel range waits guard index error)
      (shape : Geometry.ofRange range = .ok geometry) :
      Accepts kernel geometry ⟨host, .enqueueKernel queue kernel range waits⟩

/-- The geometry that a call has accepted for a kernel, if any. -/
def Stage.accepted? (kernel : KernelHandle) : Stage → Option Geometry
  | ⟨host, .enqueueKernel queue other range waits⟩ =>
    if other = kernel then (checkLaunch queue other range waits host).toOption.map Prod.snd
    else none
  | _ => none

theorem Stage.accepted?_launch {host : Host SimulatedDevice} {other : KernelHandle} :
    Stage.accepted? other ⟨host, .enqueueKernel queue kernel range waits⟩ =
      if kernel = other then (checkLaunch queue kernel range waits host).toOption.map Prod.snd
      else none := rfl

theorem Stage.accepted?_eq_some_iff {stage : Stage} :
    stage.accepted? kernel = some geometry ↔ stage.Accepts kernel geometry := by
  constructor
  · intro accepted
    unfold accepted? at accepted
    split at accepted
    · rename_i host queue other range waits
      rw [Option.ite_none_right_eq_some] at accepted
      obtain ⟨rfl, accepted⟩ := accepted
      cases passed : checkLaunch queue other range waits host with
      | error error =>
        rw [passed] at accepted
        cases accepted
      | ok found =>
        rw [passed] at accepted
        cases accepted
        exact .launch (fun guard index error early => not_violates_of_checkLaunch passed early)
          (checkLaunch_eq_ok passed).2
    · cases accepted
  · rintro ⟨clear, shape⟩
    rename_i host queue range waits
    obtain ⟨⟨line, noted⟩, passed⟩ := settles_checkLaunch.passes fun guard index error _ within =>
      clear guard index error (decide_eq_true (Nat.le_of_lt_succ within))
    cases (checkLaunch_eq_ok passed).2.symm.trans shape
    rw [accepted?_launch, if_pos rfl, passed]
    rfl

theorem Stage.accepted?_eq_none_iff {stage : Stage} :
    stage.accepted? kernel = none ↔ ∀ geometry, ¬ stage.Accepts kernel geometry := by
  rw [Option.eq_none_iff_forall_ne_some]
  exact forall_congr' fun geometry => not_congr accepted?_eq_some_iff

/-- What a launch of a kernel hands to its device, if it comes to that. -/
def Stage.handed? (kernel : KernelHandle) : Stage → Option LaunchRequest
  | ⟨host, .enqueueKernel queue other range waits⟩ =>
    if other = kernel then
      match handOver queue other range waits host with
      | .ok (_, request) _ => some request
      | .error _ _ => none
    else none
  | _ => none

/-- A launch that comes to a device is accepted, and the device gets the accepted counts. -/
theorem Stage.accepts_of_handed {stage : Stage} {request : LaunchRequest}
    (handed : stage.handed? kernel = some request) :
    ∃ geometry, stage.Accepts kernel geometry ∧
      request.workGroups = Geometry.words geometry.groups := by
  unfold handed? at handed
  split at handed
  · rename_i host queue other range waits
    rw [Option.ite_none_right_eq_some] at handed
    obtain ⟨rfl, handed⟩ := handed
    rcases handOver_run queue other range waits host with
      ⟨error, after, refused, -, -⟩ | ⟨line, geometry, asked, entry, ready, hands⟩
    · rw [refused] at handed
      cases handed
    · rw [hands] at handed
      cases handed
      obtain ⟨_, _, _, _, _, _, _, _, _, _, _, _, _, _, same⟩ := launchRequest_eq_ok ready.asked
      refine ⟨geometry, .launch (fun guard index error early =>
        not_violates_of_checkLaunch ready.passes early) (checkLaunch_eq_ok ready.passes).2, ?_⟩
      rw [same]
  · cases handed

/-- The group counts of the last launch of the kernel that came to a device, and zeros before the
first. -/
def launchedCounts (stages : List Stage) (kernel : KernelHandle) : List UInt64 :=
  match stages.findSome? (Stage.handed? kernel) with
  | some request => request.workGroups.toList.map UInt32.toUInt64
  | none => [0, 0, 0]

/-- The last launch of the kernel that was accepted came to no device, and has other group counts
than the last one that did, if there is one. -/
def Strays (stages : List Stage) (kernel : KernelHandle) : Prop :=
  ∃ later stage earlier geometry, stages = later ++ stage :: earlier ∧
    stage.Accepts kernel geometry ∧ (∀ other ∈ later, ∀ shape, ¬ other.Accepts kernel shape) ∧
    stage.handed? kernel = none ∧
    ∀ request, stages.findSome? (Stage.handed? kernel) = some request →
      request.workGroups ≠ Geometry.words geometry.groups

/-- A call that accepts no launch of the kernel hands none to a device. -/
theorem Stage.handed?_eq_none {stage : Stage}
    (none_accepted : ∀ geometry, ¬ stage.Accepts kernel geometry) :
    stage.handed? kernel = none := by
  refine Option.eq_none_iff_forall_ne_some.mpr fun request handed => ?_
  obtain ⟨geometry, accepts, -⟩ := accepts_of_handed handed
  exact none_accepted geometry accepts

/-- Where the last launch that was accepted came to a device, it was the last that did. -/
theorem findSome?_handed {later earlier : List Stage} {stage : Stage} {request : LaunchRequest}
    (none_later : ∀ other ∈ later, ∀ shape, ¬ other.Accepts kernel shape)
    (handed : stage.handed? kernel = some request) :
    (later ++ stage :: earlier).findSome? (Stage.handed? kernel) = some request :=
  List.findSome?_eq_some_iff.mpr ⟨later, stage, earlier, rfl, handed,
    fun other member => Stage.handed?_eq_none (none_later other member)⟩

/-- The groups of a geometry that is accepted are words, and none is zero. -/
theorem Stage.Accepts.sized {stage : Stage} (accepts : stage.Accepts kernel geometry) :
    ∃ dimensions, Geometry.Sized dimensions geometry.groups := by
  obtain ⟨-, shape⟩ := accepts
  exact ⟨_, (Geometry.normalized_of_ok shape).sized _ (by simp)⟩

theorem map_groups {dimensions : Nat} (sized : Geometry.Sized dimensions geometry.groups) :
    geometry.groups.toList.map UInt64.ofNat =
      (Geometry.words geometry.groups).toList.map UInt32.toUInt64 := by
  have same : (Geometry.words geometry.groups).map UInt32.toNat = geometry.groups :=
    Geometry.words_of_fits fun index bound => Nat.le_sub_one_of_lt (sized index bound).2.1
  have widened : UInt64.ofNat ∘ UInt32.toNat = UInt32.toUInt64 :=
    funext fun count => UInt64.ofNat_uInt32ToNat count
  conv_lhs => rw [← same, Vector.toList_map, List.map_map, widened]

/-- Counts of groups are not zeros. -/
theorem map_groups_ne {dimensions : Nat} (sized : Geometry.Sized dimensions geometry.groups) :
    geometry.groups.toList.map UInt64.ofNat ≠ [0, 0, 0] := by
  intro zeros
  rw [Geometry.toList_three, List.map_cons, List.cons.injEq] at zeros
  obtain ⟨positive, below, -⟩ := sized 0 (by decide)
  have small : geometry.groups[0] < UInt64.size := Nat.lt_trans below (by decide)
  have lost : geometry.groups[0] = 0 :=
    (UInt64.toNat_ofNat_of_lt' small).symm.trans (congrArg UInt64.toNat zeros.1)
  exact Nat.ne_of_gt positive lost

/-! ### Calls that note nothing -/

/-- The geometry that is noted with a kernel. -/
def geometryOf (host : Host SimulatedDevice) (kernel : KernelHandle) : Option Geometry :=
  (host.registry.kernels.get? kernel).bind Kernel.geometry

/-- What is noted with kernels is as it was. -/
def Steady (before after : Host SimulatedDevice) : Prop :=
  ∀ kernel, after.geometryOf kernel = before.geometryOf kernel

theorem Steady.refl (host : Host SimulatedDevice) : host.Steady host := fun _ => rfl

theorem framed_steady : Framed Steady where
  trans first second kernel := (second kernel).trans (first kernel)
  across := by
    intro before after across
    obtain ⟨devices, same⟩ := across.rest
    rw [same]
    exact .refl before
  apart := by
    intro before after apart kernel
    rw [Host.geometryOf, Host.geometryOf, apart.kernels]

theorem steady_createContext (devices : List DeviceHandle) (notify : Bool) :
    Within Steady (createContext devices notify : HostAction SimulatedDevice ContextHandle) :=
  framed_steady.seq (framed_steady.check _) fun _ host => .refl host

theorem steady_changeContext (handle : ContextHandle) (change : Context → Context) :
    Within Steady (changeContext handle change : HostAction SimulatedDevice Unit) := by
  unfold changeContext
  rw [discard_check]
  exact framed_steady.seq (framed_steady.check _) fun _ host => .refl host

theorem steady_createQueue (context : ContextHandle) (device : DeviceHandle)
    (properties : QueueProperties) :
    Within Steady (createQueue context device properties :
      HostAction SimulatedDevice QueueHandle) := by
  refine framed_steady.seq (framed_steady.check _) fun _ => ?_
  refine framed_steady.seq (fun host => ?_) fun stream host => .refl host
  obtain ⟨devices, same⟩ := final_onDevice host device (fun cause => .streamCreation cause.message)
    DeviceDriver.createStream
  rw [same]
  exact .refl host

/-- Nothing is noted with a new kernel, nor with its handle before. -/
theorem steady_createKernel (packed : before.registry.kernels.Packed) (program : ProgramHandle)
    (name : String) : before.Steady (final (createKernel program name before)) := by
  unfold createKernel
  cases passes : checkKernel program name before with
  | error error =>
    rw [bind_of_error (check_of_error passes)]
    exact .refl before
  | ok kernel =>
    obtain ⟨-, fresh⟩ := checkKernel_fresh passes
    rw [bind_of_ok (check_of_ok passes)]
    intro handle
    show ((before.registry.kernels.insert kernel).2.get? handle).bind Kernel.geometry = _
    rw [packed.get?_insert, Host.geometryOf]
    cases before.registry.kernels.get? handle with
    | some made => rfl
    | none =>
      rw [Option.none_or]
      split
      · exact fresh
      · rfl

/-- Setting an argument notes nothing. -/
theorem steady_setArgument (kernel : KernelHandle) (index : Nat) (value : Bytes) :
    Within Steady (setArgument kernel index value : HostAction SimulatedDevice Unit) := by
  refine framed_steady.seq (framed_steady.check _) fun _ host other => ?_
  show ((host.registry.kernels.modify kernel _).get? other).bind Kernel.geometry = _
  rw [Arena.get?_modify, Host.geometryOf]
  split
  · rename_i here
    rw [here]
    cases host.registry.kernels.get? kernel <;> rfl
  · rfl

theorem steady_dispatch (handle : DeviceHandle) (request : LaunchRequest) :
    Within Steady (dispatch handle request : HostAction SimulatedDevice Unit) := by
  refine framed_steady.seq (fun host => ?_) fun result host => ?_
  · cases found : host.backend? handle with
    | none =>
      rw [execute_of_none found]
      exact .refl host
    | some device =>
      obtain ⟨recorders, ran⟩ := execute_run found request
      rw [ran]
      exact .refl host
  · split <;> exact .refl host

/-- A launch that is accepted notes nothing more than its geometry. -/
theorem steady_enqueueKernel {host : Host SimulatedDevice} {line : Queue}
    (passed : checkLaunch queue kernel range waits host = .ok (line, geometry)) :
    (host.noted kernel geometry).Steady
      (step (.enqueueKernel queue kernel range waits) host).2 := by
  rw [step_host]
  unfold perform
  rw [final_quietly, enqueueKernel_of_checkLaunch passed]
  have taking : Within Steady (takeCollectors line.context : HostAction SimulatedDevice _) :=
    framed_steady.seq (framed_steady.check _) fun _ host => .refl host
  exact framed_steady.seq (framed_steady.check _)
    (fun request => framed_steady.seq taking fun collectors => steady_dispatch _ _) _

/-! ### Calls and runs -/

theorem geometryOf_noted {host : Host SimulatedDevice}
    (live : host.registry.kernels.get? kernel ≠ none) (other : KernelHandle) :
    (host.noted kernel geometry).geometryOf other =
      if other = kernel then some geometry else host.geometryOf other := by
  obtain ⟨made, held⟩ := Option.ne_none_iff_exists'.mp live
  show ((host.registry.kernels.modify kernel _).get? other).bind Kernel.geometry = _
  rw [Arena.get?_modify, held, Host.geometryOf]
  split <;> rfl

/-- **A launch notes its geometry where it is accepted**, however it goes on. -/
theorem geometryOf_enqueueKernel (host : Host SimulatedDevice) (queue : QueueHandle)
    (kernel : KernelHandle) (range : LaunchRange) (waits : WaitList) (other : KernelHandle) :
    (step (.enqueueKernel queue kernel range waits) host).2.geometryOf other =
      (Stage.accepted? other ⟨host, .enqueueKernel queue kernel range waits⟩).or
        (host.geometryOf other) := by
  cases passed : checkLaunch queue kernel range waits host with
  | error error =>
    rw [step_of_checkLaunch passed, Stage.accepted?_launch, passed]
    split <;> exact Option.none_or.symm
  | ok found =>
    obtain ⟨line, geometry⟩ := found
    have live : host.registry.kernels.get? kernel ≠ none := fun dead =>
      not_violates_of_checkLaunch passed (rfl : Guard.kernel.isEarly = true) (.kernel dead)
    rw [steady_enqueueKernel passed, geometryOf_noted live, Stage.accepted?_launch, passed]
    by_cases here : other = kernel
    · rw [if_pos here, if_pos here.symm]
      rfl
    · rw [if_neg here, if_neg (Ne.symm here), Option.none_or]

/-- **A call notes a geometry with a kernel where it accepts one for it**, and else leaves what is
noted with every kernel. -/
theorem geometryOf_step {host : Host SimulatedDevice} (packed : host.registry.kernels.Packed)
    (call : Call) (kernel : KernelHandle) :
    (step call host).2.geometryOf kernel =
      (Stage.accepted? kernel ⟨host, call⟩).or (host.geometryOf kernel) := by
  cases call with
  | enqueueKernel queue other range waits => exact geometryOf_enqueueKernel ..
  | platformIds =>
    rw [step_platformIds]
    split <;> exact Option.none_or.symm
  | createContext devices notify =>
    rw [step_host]
    exact (steady_createContext devices notify).map host kernel
  | addCollector context collector persistence =>
    rw [step_host]
    exact within_quietly (steady_changeContext _ _) host kernel
  | clearCollectors context =>
    rw [step_host]
    exact within_quietly (steady_changeContext _ _) host kernel
  | createQueue context device properties =>
    rw [step_host]
    exact (steady_createQueue context device properties).map host kernel
  | createKernel program name =>
    rw [step_host]
    unfold perform
    rw [final_map]
    exact steady_createKernel packed program name kernel
  | setArgument other index value =>
    rw [step_host]
    exact within_quietly (steady_setArgument other index value) host kernel
  | _ =>
    rw [step_host]
    exact framed_steady.perform rfl host kernel

/-- **What is noted with a kernel is what was last accepted for it.** -/
theorem Course.geometryOf {host : Host SimulatedDevice} (course : Course stages host)
    (kernel : KernelHandle) :
    host.geometryOf kernel = stages.findSome? (Stage.accepted? kernel) := by
  induction course with
  | start settings devices => rfl
  | @call stages host course call ih =>
    rw [geometryOf_step course.run.regular.packed.kernels, ih, List.findSome?_cons]
    cases Stage.accepted? kernel ⟨host, call⟩ <;> rfl
  | @turn stages host course position switch ih =>
    rw [← ih]
    rcases adjust_run SimulatedDevice.Served.refl host position
      (fun device => device.served_turn switch) with across | ⟨pending, same, -⟩
    · exact framed_steady.across across kernel
    · rw [same]
      rfl

theorem Course.geometryOf_eq_none_iff {host : Host SimulatedDevice}
    (course : Course stages host) :
    host.geometryOf kernel = none ↔
      ∀ stage ∈ stages, ∀ geometry, ¬ stage.Accepts kernel geometry := by
  rw [course.geometryOf, List.findSome?_eq_none_iff]
  simp only [Stage.accepted?_eq_none_iff]

/-- A geometry that is noted was accepted, and nothing was after it. -/
theorem Course.geometryOf_eq_some_iff {host : Host SimulatedDevice}
    (course : Course stages host) :
    host.geometryOf kernel = some geometry ↔
      ∃ later stage earlier, stages = later ++ stage :: earlier ∧
        stage.Accepts kernel geometry ∧
        ∀ other ∈ later, ∀ shape, ¬ other.Accepts kernel shape := by
  rw [course.geometryOf, List.findSome?_eq_some_iff]
  simp only [Stage.accepted?_eq_some_iff, Stage.accepted?_eq_none_iff]

/-! ### Group counts -/

/-- The group counts that a live kernel reports. -/
theorem step_workGroupCount {host : Host SimulatedDevice}
    (live : host.registry.kernels.get? kernel ≠ none) :
    step (.kernelInfo kernel .workGroupCount) host =
      (.ok (.info (.sizes (match host.geometryOf kernel with
        | some geometry => geometry.groups.toList.map UInt64.ofNat
        | none => [0, 0, 0]))), host) := by
  obtain ⟨made, held⟩ := Option.ne_none_iff_exists'.mp live
  have asked : kernelInfo kernel .workGroupCount host =
      .ok (made.info .workGroupCount) host := by
    refine check_of_ok ?_
    rw [except_bind_of_ok (Arena.checked_eq_ok_iff.mpr held)]
    rfl
  rw [step_of_ok (map_of_ok asked), Host.geometryOf, held]
  rfl

/-- Accepted counts are the last launched ones if the last launch that came to a device had them. -/
theorem launchedCounts_eq_iff {dimensions : Nat}
    (sized : Geometry.Sized dimensions geometry.groups) :
    geometry.groups.toList.map UInt64.ofNat = launchedCounts stages kernel ↔
      ∃ request, stages.findSome? (Stage.handed? kernel) = some request ∧
        request.workGroups = Geometry.words geometry.groups := by
  unfold launchedCounts
  cases stages.findSome? (Stage.handed? kernel) with
  | none => exact iff_of_false (map_groups_ne sized) (by simp)
  | some request =>
    simp only [map_groups sized, Option.some.injEq, exists_eq_left']
    rw [(List.map_inj_right fun _ _ => UInt32.toUInt64_inj.mp), Vector.toList_inj]
    exact eq_comm

/-- The counts that a live kernel reports are those of its last launch, but where the last one that
was accepted strays. -/
theorem Course.reports_launched_iff {host : Host SimulatedDevice} (course : Course stages host)
    (live : host.registry.kernels.get? kernel ≠ none) :
    step (.kernelInfo kernel .workGroupCount) host =
        (.ok (.info (.sizes (launchedCounts stages kernel))), host) ↔
      ¬ Strays stages kernel := by
  rw [step_workGroupCount live]
  simp only [Prod.mk.injEq, Except.ok.injEq, Answer.info.injEq, InfoValue.sizes.injEq, and_true]
  cases last : host.geometryOf kernel with
  | none =>
    have none_accepted := course.geometryOf_eq_none_iff.mp last
    have none_handed : stages.findSome? (Stage.handed? kernel) = none :=
      List.findSome?_eq_none_iff.mpr fun stage member =>
        Stage.handed?_eq_none (none_accepted stage member)
    refine iff_of_true (by rw [launchedCounts, none_handed]) ?_
    rintro ⟨later, stage, earlier, geometry, rfl, accepts, -⟩
    exact none_accepted stage (by simp) geometry accepts
  | some geometry =>
    obtain ⟨later, stage, earlier, split, accepts, none_later⟩ :=
      course.geometryOf_eq_some_iff.mp last
    obtain ⟨dimensions, sized⟩ := accepts.sized
    refine (launchedCounts_eq_iff sized).trans ⟨?_, fun faithful => ?_⟩
    · rintro ⟨request, found, counts⟩
        ⟨later, stage, earlier, shape, split, accepts, none_later, -, others⟩
      -- only one launch was accepted last
      have noted := course.geometryOf_eq_some_iff.mpr
        ⟨later, stage, earlier, split, accepts, none_later⟩
      cases last.symm.trans noted
      exact others request found counts
    · by_contra others
      cases handed : stage.handed? kernel with
      | none =>
        exact faithful ⟨later, stage, earlier, geometry, split, accepts, none_later, handed,
          fun request found same => others ⟨request, found, same⟩⟩
      | some request =>
        obtain ⟨shape, accepts', counts⟩ := Stage.accepts_of_handed handed
        cases (Stage.accepted?_eq_some_iff.mpr accepts).symm.trans
          (Stage.accepted?_eq_some_iff.mpr accepts')
        exact others ⟨request, split ▸ findSome?_handed none_later handed, counts⟩

/-- **The group counts of a kernel are those of the last launch of it that was accepted**, and zeros
before the first. Every launch of it that came to a device was accepted, with the counts that the
device got; a launch that is not accepted changes nothing. So the counts are those of the last
launch that came to a device, or zeros before the first, exactly if none strays: no launch with
other counts was accepted after that one and then refused for its program or its arguments. -/
theorem Course.group_counts {host : Host SimulatedDevice} (course : Course stages host)
    (kernel : KernelHandle) :
    (host.registry.kernels.get? kernel = none →
      step (.kernelInfo kernel .workGroupCount) host = (.error (.invalidHandle .kernel), host)) ∧
    (host.registry.kernels.get? kernel ≠ none →
      (∀ stage ∈ stages, ∀ geometry, ¬ stage.Accepts kernel geometry) →
      step (.kernelInfo kernel .workGroupCount) host = (.ok (.info (.sizes [0, 0, 0])), host)) ∧
    (∀ later stage earlier geometry, stages = later ++ stage :: earlier →
      stage.Accepts kernel geometry →
      (∀ other ∈ later, ∀ shape, ¬ other.Accepts kernel shape) →
      step (.kernelInfo kernel .workGroupCount) host =
        (.ok (.info (.sizes (geometry.groups.toList.map UInt64.ofNat))), host)) ∧
    (∀ stage ∈ stages, ∀ request, stage.handed? kernel = some request →
      ∃ geometry, stage.Accepts kernel geometry ∧
        request.workGroups = Geometry.words geometry.groups) ∧
    (∀ queue other range waits guard index error, guard.isEarly = true →
      Violates host queue other range waits guard index error →
      (step (.enqueueKernel queue other range waits) host).2 = host) ∧
    (host.registry.kernels.get? kernel ≠ none →
      (step (.kernelInfo kernel .workGroupCount) host =
          (.ok (.info (.sizes (launchedCounts stages kernel))), host) ↔
        ¬ Strays stages kernel)) := by
  refine ⟨fun dead => ?_, fun live none_accepted => ?_, ?_, ?_, ?_,
    fun live => course.reports_launched_iff live⟩
  · have failed : kernelInfo kernel .workGroupCount host =
        .error (.invalidHandle .kernel) host := by
      refine check_of_error ?_
      rw [Arena.checked, dead]
      rfl
    exact step_of_error (map_of_error failed)
  · rw [step_workGroupCount live, course.geometryOf_eq_none_iff.mpr none_accepted]
  · intro later stage earlier geometry split accepts none_later
    have last := course.geometryOf_eq_some_iff.mpr
      ⟨later, stage, earlier, split, accepts, none_later⟩
    have live : host.registry.kernels.get? kernel ≠ none := by
      intro dead
      rw [Host.geometryOf, dead] at last
      cases last
    rw [step_workGroupCount live, last]
  · exact fun stage _ request handed => Stage.accepts_of_handed handed
  · intro queue other range waits guard index error early violated
    cases passed : checkLaunch queue other range waits host with
    | error cause => rw [step_of_checkLaunch passed]
    | ok found => exact absurd violated (not_violates_of_checkLaunch passed early)

/-- A kernel is launched after the module of its program was taken away. -/
def withdrawn : List Call := withdrawing ++ [.enqueueKernel ⟨0, 1⟩ ⟨0, 1⟩ (.ofGlobal [2]) {}]

/-- The launch is refused for its program, and the kernel reports its counts. -/
theorem group_counts_withdrawn :
    step (.kernelInfo ⟨0, 1⟩ .workGroupCount) (run withdrawn (twin 64 64)).2 =
      (.ok (.info (.sizes [1, 1, 1])), (run withdrawn (twin 64 64)).2) := by
  have course := course_twin 64 64 withdrawn
  have accepted : (Stage.accepted? ⟨0, 1⟩ ⟨(run withdrawing (twin 64 64)).2,
      .enqueueKernel ⟨0, 1⟩ ⟨0, 1⟩ (.ofGlobal [2]) {}⟩).map (fun shape => shape.groups.toList) =
        some [1, 1, 1] := by decide +kernel
  obtain ⟨geometry, accepts, counts⟩ := Option.map_eq_some_iff.mp accepted
  have shown := (course.group_counts ⟨0, 1⟩).2.2.1 [] _ (stagesOf withdrawing (twin 64 64)) geometry
    rfl (Stage.accepted?_eq_some_iff.mp accepts) (List.forall_mem_nil _)
  rw [counts] at shown
  exact shown

/-- The counts need not be those of a launch that came to a device: with no such launch of the
kernel, one that was refused for its program is reported. -/
theorem not_only_handed :
    ¬ ∀ (stages : List Stage) (host : Host SimulatedDevice) (kernel : KernelHandle),
      Course stages host → host.registry.kernels.get? kernel ≠ none →
      (∀ stage ∈ stages, stage.handed? kernel = none) →
      step (.kernelInfo kernel .workGroupCount) host =
        (.ok (.info (.sizes [0, 0, 0])), host) := by
  intro claim
  have none_handed : (stagesOf withdrawn (twin 64 64)).all
      (fun stage => (stage.handed? ⟨0, 1⟩).isNone) = true := by decide +kernel
  have noted : ((run withdrawn (twin 64 64)).2.geometryOf ⟨0, 1⟩).map
      (fun shape => shape.groups.toList) = some [1, 1, 1] := by decide +kernel
  obtain ⟨geometry, last, counts⟩ := Option.map_eq_some_iff.mp noted
  have live : (run withdrawn (twin 64 64)).2.registry.kernels.get? ⟨0, 1⟩ ≠ none := by
    intro dead
    rw [geometryOf, dead] at last
    cases last
  have zeros := claim _ _ ⟨0, 1⟩ (course_twin 64 64 withdrawn) live fun stage member =>
    Option.isNone_iff_eq_none.mp (List.all_eq_true.mp none_handed stage member)
  rw [step_workGroupCount live, last] at zeros
  simp only [counts, Prod.mk.injEq, Except.ok.injEq, Answer.info.injEq, InfoValue.sizes.injEq]
    at zeros
  exact absurd zeros.1 (by decide)

end ComputeHost.Host
