/-
**Finding devices.**

Devices are found by a word of 64 bits: a bit for the first device of the platform, a bit for each
of three classes, and one word that asks for all of them. What such a word asks for is told here bit
by bit, and of the devices found it is told which they are and in what order.

* `DeviceMask.Meaningful`, `isValid_iff` — the words that are taken.
* `Finds`, `finds_filterDevices` — the devices that a word asks for, in the order of the platform.
* `SameListing`, `listing_step` — no call changes what is listed.
* `Run.devices_found` — what a search answers after every run, and that it answers so ever after.
-/

import ComputeHost.Proofs.Host.Service
import ComputeHost.Proofs.Host.Session

set_option linter.unusedSectionVars false

namespace ComputeHost

/-! ### Words bit by bit -/

namespace DeviceMask

variable {mask other : DeviceMask} {place : Nat}

/-- The bit at a place is set. -/
def Has (mask : DeviceMask) (place : Nat) : Prop := mask.bits.toNat.testBit place = true

/-- Some bit is set in both. -/
def Shares (mask other : DeviceMask) : Prop := ∃ place, mask.Has place ∧ other.Has place

/-- The words of one bit that have a meaning. -/
def flags : List DeviceMask := [first, cpu, gpu, accelerator]

/-- The word asks for something, and for nothing without a meaning unless it is the one for all. -/
structure Meaningful (mask : DeviceMask) : Prop where
  asks : ∃ flag ∈ flags, mask.Shares flag
  known : mask = all ∨ ∀ place, mask.Has place → ∃ flag ∈ flags, flag.Has place

theorem meets_iff : mask.meets other = true ↔ mask.Shares other := by
  have common : ∀ place, (mask.bits &&& other.bits).toNat.testBit place = true ↔
      mask.Has place ∧ other.Has place := by
    intro place
    rw [UInt64.toNat_and, Nat.testBit_and, Bool.and_eq_true]
    rfl
  unfold meets Shares
  rw [bne_iff_ne]
  constructor
  · intro differs
    have positive : (mask.bits &&& other.bits).toNat ≠ 0 :=
      fun zero => differs (UInt64.toNat_inj.mp zero)
    obtain ⟨place, set⟩ := Nat.exists_testBit_of_ne_zero positive
    exact ⟨place, (common place).mp set⟩
  · rintro ⟨place, both⟩ zero
    have set := (common place).mpr both
    rw [zero] at set
    exact absurd set (by simp)

/-- The bits with a meaning are the lowest four. -/
theorem exists_flag_iff : (∃ flag ∈ flags, flag.Has place) ↔ place < 4 := by
  constructor
  · rintro ⟨flag, among, set⟩
    have small : ∀ flag ∈ flags, flag.bits.toNat < 2 ^ 4 := by decide
    by_contra high
    have clear := Nat.testBit_lt_two_pow
      (Nat.lt_of_lt_of_le (small flag among) (Nat.pow_le_pow_right (by decide) (not_lt.mp high)))
    rw [Has, clear] at set
    cases set
  · intro low
    have each : ∀ place < 4, ∃ flag ∈ flags, flag.bits.toNat.testBit place = true := by decide
    exact each place low

theorem has_union_iff : (first ||| cpu ||| gpu ||| accelerator).Has place ↔ place < 4 := by
  show Nat.testBit (2 ^ 4 - 1) place = true ↔ place < 4
  rw [Nat.testBit_two_pow_sub_one, decide_eq_true_iff]

/-- **A word is taken exactly if it is meaningful.** -/
theorem isValid_iff : mask.isValid = true ↔ mask.Meaningful := by
  have asks : mask.Shares (first ||| cpu ||| gpu ||| accelerator) ↔
      ∃ flag ∈ flags, mask.Shares flag := by
    constructor
    · rintro ⟨place, set, low⟩
      obtain ⟨flag, among, meant⟩ := exists_flag_iff.mpr (has_union_iff.mp low)
      exact ⟨flag, among, place, set, meant⟩
    · rintro ⟨flag, among, place, set, meant⟩
      exact ⟨place, set, has_union_iff.mpr (exists_flag_iff.mp ⟨flag, among, meant⟩)⟩
  have known : mask.bits < 16 ↔ ∀ place, mask.Has place → ∃ flag ∈ flags, flag.Has place := by
    simp only [exists_flag_iff]
    constructor
    · intro small place set
      by_contra high
      have bounded : mask.bits.toNat < 2 ^ place :=
        Nat.lt_of_lt_of_le (UInt64.lt_iff_toNat_lt.mp small)
          (Nat.pow_le_pow_right (by decide) (not_lt.mp high) : 2 ^ 4 ≤ 2 ^ place)
      rw [Has, Nat.testBit_lt_two_pow bounded] at set
      cases set
    · intro low
      have bounded : mask.bits.toNat < 2 ^ 4 := Nat.lt_pow_two_of_testBit _ fun place high =>
        Bool.of_not_eq_true fun set => absurd (low place set) (not_lt.mpr high)
      exact UInt64.lt_iff_toNat_lt.mpr bounded
  unfold isValid
  rw [Bool.and_eq_true, Bool.or_eq_true, meets_iff, asks, beq_iff_eq, decide_eq_true_iff, known]
  exact ⟨fun both => ⟨both.1, both.2⟩, fun meaningful => ⟨meaningful.asks, meaningful.known⟩⟩

instance (mask : DeviceMask) : Decidable mask.Meaningful := decidable_of_iff _ isValid_iff

theorem matchesClass_iff {deviceClass : DeviceClass} :
    mask.matchesClass deviceClass = true ↔ mask = all ∨ mask.Shares (ofClass deviceClass) := by
  unfold matchesClass
  rw [Bool.or_eq_true, beq_iff_eq, meets_iff]

end DeviceMask

/-- Whether the call asks what is listed. -/
def Call.isListing : Call → Bool
  | .platformIds | .deviceIds .. => true
  | _ => false

namespace Host

open ComputeHost.Action

/-! ### The devices found -/

section

variable {δ : Type} [DeviceDriver δ] {host : Host δ} {platform : Platform} {mask : DeviceMask}
  {handle : PlatformHandle}

/-- The word asks for a device of the platform: for all, for the first if this is the one, or for
the class of the device. -/
def Wants (host : Host δ) (platform : Platform) (mask : DeviceMask) (device : DeviceHandle) :
    Prop :=
  mask = .all ∨ (mask.Shares .first ∧ platform.devices.head? = some device) ∨
    ∃ entry, host.registry.devices.get? device = some entry ∧
      mask.Shares (.ofClass (DeviceDriver.properties entry.backend).deviceClass)

/-- These are the devices of the platform that the word asks for, in the order of the platform. -/
structure Finds (host : Host δ) (platform : Platform) (mask : DeviceMask)
    (found : List DeviceHandle) : Prop where
  ordered : found.Sublist platform.devices
  exact : ∀ device, device ∈ found ↔ device ∈ platform.devices ∧ host.Wants platform mask device

theorem isAskedFor_iff {device : DeviceHandle} :
    host.isAskedFor mask device = true ↔
      ∃ entry, host.registry.devices.get? device = some entry ∧
        (mask = .all ∨
          mask.Shares (.ofClass (DeviceDriver.properties entry.backend).deviceClass)) := by
  unfold isAskedFor
  simp only [Option.any_eq_true, DeviceMask.matchesClass_iff]

/-- A live device is asked for by its class, or with all others. -/
theorem isAskedFor_iff_of_live {device : DeviceHandle}
    (live : host.registry.devices.contains device = true) :
    host.isAskedFor mask device = true ↔ mask = .all ∨
      ∃ entry, host.registry.devices.get? device = some entry ∧
        mask.Shares (.ofClass (DeviceDriver.properties entry.backend).deviceClass) := by
  obtain ⟨entry, there⟩ := Arena.contains_iff.mp live
  simp only [isAskedFor_iff, there, Option.some.injEq, exists_eq_left']

/-- Devices are found by class, or else as the first of the platform. -/
theorem mem_filterDevices_iff {device : DeviceHandle} :
    device ∈ host.filterDevices platform.devices mask ↔
      device ∈ platform.devices ∧ (host.isAskedFor mask device = true ∨
        mask.Shares .first ∧ platform.devices.head? = some device) := by
  unfold filterDevices
  simp only
  split
  · rename_i first rest listed
    rw [listed, List.head?_cons, Option.some.injEq]
    split
    · rename_i put
      rw [Bool.and_eq_true, DeviceMask.meets_iff] at put
      rw [List.mem_cons, List.mem_filter]
      constructor
      · rintro (rfl | ⟨member, asked⟩)
        · exact ⟨List.mem_cons_self, .inr ⟨put.1, rfl⟩⟩
        · exact ⟨member, .inl asked⟩
      · rintro ⟨member, asked | ⟨_, rfl⟩⟩
        · exact .inr ⟨member, asked⟩
        · exact .inl rfl
    · rename_i left
      rw [List.mem_filter]
      refine ⟨fun ⟨member, asked⟩ => ⟨member, .inl asked⟩, ?_⟩
      rintro ⟨member, asked | ⟨shares, rfl⟩⟩
      · exact ⟨member, asked⟩
      · -- the first is there already
        have among : ((first :: rest).filter (host.isAskedFor mask)).contains first = true := by
          simpa [DeviceMask.meets_iff.mpr shares] using left
        exact List.mem_filter.mp (List.contains_iff_mem.mp among)
  · rename_i none_listed
    simp [none_listed]

/-- **The search finds what the word asks for.** -/
theorem finds_filterDevices
    (live : ∀ device ∈ platform.devices, host.registry.devices.contains device = true) :
    host.Finds platform mask (host.filterDevices platform.devices mask) := by
  refine ⟨filterDevices_sublist _, fun device => ?_⟩
  rw [mem_filterDevices_iff]
  refine and_congr_right fun member => ?_
  rw [isAskedFor_iff_of_live (live device member), Wants, or_assoc]
  exact or_congr_right or_comm

/-- **What a search of a live platform answers.** -/
theorem step_deviceIds (there : host.registry.platforms.get? handle = some platform) :
    step (.deviceIds handle mask) host =
      (if mask.Meaningful then
        if host.filterDevices platform.devices mask = [] then
          .error (.deviceNotFound mask.bits.toNat)
        else .ok (.handles (host.filterDevices platform.devices mask))
      else .error (.invalidDeviceType mask.bits.toNat), host) := by
  rw [step_of_look rfl, except_bind_of_ok (Arena.checked_eq_ok_iff.mpr there)]
  refine Prod.ext ?_ rfl
  by_cases meaningful : mask.Meaningful
  · rw [if_pos meaningful, DeviceMask.isValid_iff.mpr meaningful]
    cases host.filterDevices platform.devices mask <;> rfl
  · rw [if_neg meaningful, Bool.eq_false_iff.mpr (mt DeviceMask.isValid_iff.mp meaningful)]
    rfl

theorem step_deviceIds_of_dead (dead : host.registry.platforms.get? handle = none) :
    step (.deviceIds handle mask) host = (.error (.invalidHandle .platform), host) := by
  rw [step_of_look rfl, Arena.checked, dead]
  rfl

end

/-! ### What stays listed -/

section

variable {before after host : Host SimulatedDevice} {history : List Exchange}

/-- The platform is as it was, and so is what each device is. -/
structure SameListing (before after : Host SimulatedDevice) : Prop where
  platforms : after.registry.platforms = before.registry.platforms
  properties : ∀ handle, (after.backend? handle).map SimulatedDevice.properties =
    (before.backend? handle).map SimulatedDevice.properties

/-- A device is what it was. -/
theorem Each.properties_eq {relation : SimulatedDevice → SimulatedDevice → Prop}
    (each : Each relation before after)
    (keeps : ∀ one other, relation one other → other.properties = one.properties)
    (handle : DeviceHandle) : (after.backend? handle).map SimulatedDevice.properties =
      (before.backend? handle).map SimulatedDevice.properties := by
  rcases each handle with ⟨here, there⟩ | ⟨one, other, here, there, related⟩
  · rw [here, there]
  · rw [here, there, Option.map_some, Option.map_some, keeps one other related]

theorem properties_setBackend {handle : DeviceHandle} {one changed : SimulatedDevice}
    (found : host.backend? handle = some one) (same : changed.properties = one.properties)
    (other : DeviceHandle) :
    ((host.setBackend handle changed).backend? other).map SimulatedDevice.properties =
      (host.backend? other).map SimulatedDevice.properties := by
  rw [backend?_setBackend]
  split
  · rename_i here
    rw [here, found]
    exact congrArg some same
  · rfl

/-- No call changes what a device is, once devices are listed. -/
theorem Service.properties_eq {call : Call} {result : Except HostError Answer}
    (service : Service before call result after) (listed : before.isEnumerated = true)
    (handle : DeviceHandle) : (after.backend? handle).map SimulatedDevice.properties =
      (before.backend? handle).map SimulatedDevice.properties := by
  cases service with
  | served _ serves => exact serves.each.properties_eq (fun _ _ served => served.properties) handle
  | failed serves => exact serves.each.properties_eq (fun _ _ served => served.properties) handle
  | listed unlisted => exact absurd (listed.symm.trans unlisted) Bool.noConfusion
  | queueMade found streamed => exact properties_setBackend found streamed.properties handle
  | kernelMade _ => rfl
  | argumentSet _ => rfl
  | launched _ _ _ serves found ran =>
    exact (properties_setBackend found ran.properties handle).trans
      (serves.each.properties_eq (fun _ _ served => served.properties) handle)

/-- No call adds a platform, once it is listed. -/
theorem Filed.platforms_eq {call : Call} {result : Except HostError Answer}
    (filed : Filed before call result after) (listed : before.isEnumerated = true) :
    after.registry.platforms = before.registry.platforms := by
  cases filed with
  | aside aside _ _ => exact aside.platforms
  | listed unlisted => exact absurd (listed.symm.trans unlisted) Bool.noConfusion
  | added aside addition =>
    refine Eq.trans ?_ aside.platforms
    cases addition <;> rfl

/-- **A call changes nothing of what is listed.** -/
theorem Run.listing_step (run : Run history before) (listed : before.isEnumerated = true)
    (call : Call) : SameListing before (step call before).2 where
  platforms := (step_filed run.session.upheld.intact run.session.upheld.packed call).platforms_eq
    listed
  properties := (step_service before call).properties_eq listed

theorem listing_turn (host : Host SimulatedDevice) (position : Nat)
    (switch : SimulatedDevice.Switch) :
    SameListing host (host.adjust position fun device => device.turn switch) where
  platforms := (aside_adjust host position _).platforms
  properties := (serves_turn host position switch).each.properties_eq fun _ _ served =>
    served.properties

/-! ### The same answer again -/

namespace SameListing

variable {mask : DeviceMask}

theorem isEnumerated_eq (same : SameListing before after) :
    after.isEnumerated = before.isEnumerated := by
  unfold isEnumerated
  rw [same.platforms]

/-- Devices are asked for by what they are. -/
theorem filterDevices_eq (same : SameListing before after) (devices : List DeviceHandle) :
    after.filterDevices devices mask = before.filterDevices devices mask := by
  have asked : after.isAskedFor mask = before.isAskedFor mask := by
    funext handle
    have read : ∀ host : Host SimulatedDevice, host.isAskedFor mask handle =
        ((host.backend? handle).map SimulatedDevice.properties).any fun properties =>
          mask.matchesClass properties.deviceClass := by
      intro host
      unfold isAskedFor backend?
      cases host.registry.devices.get? handle <;> rfl
    rw [read, read, same.properties]
  unfold filterDevices
  rw [asked]

/-- **What is listed is answered again**, wherever the same is listed. -/
theorem answers (same : SameListing before after) {call : Call}
    {result : Except HostError Answer} (lists : call.isListing = true)
    (listed : before.isEnumerated = true) (answered : step call before = (result, before)) :
    step call after = (result, after) := by
  cases call with
  | platformIds =>
    rw [step_platformIds_of_listed listed] at answered
    rw [step_platformIds_of_listed (same.isEnumerated_eq.trans listed), same.platforms]
    cases answered
    rfl
  | deviceIds handle mask =>
    cases there : before.registry.platforms.get? handle with
    | none =>
      rw [step_deviceIds_of_dead there] at answered
      rw [step_deviceIds_of_dead (same.platforms ▸ there)]
      cases answered
      rfl
    | some platform =>
      rw [step_deviceIds there] at answered
      rw [step_deviceIds (same.platforms ▸ there), same.filterDevices_eq]
      cases answered
      rfl
  | _ => cases lists

end SameListing

/-- There is a platform only when it is listed. -/
theorem isEnumerated_of_platform (intact : host.registry.Intact) {handle : PlatformHandle}
    {platform : Platform} (there : host.registry.platforms.get? handle = some platform) :
    host.isEnumerated = true := by
  rcases intact.platform with ⟨no_platform, -⟩ | ⟨filled, -⟩
  · rw [no_platform] at there
    cases there
  · unfold isEnumerated
    rw [filled]
    rfl

/-- Once it is asked what is listed, and a platform is there, it is answered the same at once. -/
theorem answers_again (intact : host.registry.Intact) {call : Call}
    (lists : call.isListing = true)
    (answered : (step call host).1 ≠ .error (.invalidHandle .platform)) :
    (step call host).2.isEnumerated = true ∧
      step call (step call host).2 = ((step call host).1, (step call host).2) := by
  cases call with
  | platformIds =>
    cases listed : host.isEnumerated with
    | true =>
      rw [step_platformIds_of_listed listed]
      exact ⟨listed, step_platformIds_of_listed listed⟩
    | false =>
      rw [step_platformIds_of_unlisted listed]
      have filled := isEnumerated_enumerate host
      exact ⟨filled, step_platformIds_of_listed filled⟩
  | deviceIds handle mask =>
    cases there : host.registry.platforms.get? handle with
    | none =>
      rw [step_deviceIds_of_dead there] at answered
      exact absurd rfl answered
    | some platform =>
      rw [step_deviceIds there]
      exact ⟨isEnumerated_of_platform intact there, step_deviceIds there⟩
  | _ => cases lists

/-- **What was answered is answered again** at any later time, but for a platform that was not
listed yet. -/
theorem Run.listings_kept (run : Run history host) : ∀ exchange ∈ history,
    exchange.call.isListing = true → exchange.result ≠ .error (.invalidHandle .platform) →
      host.isEnumerated = true ∧ step exchange.call host = (exchange.result, host) := by
  induction run with
  | start settings devices => exact List.forall_mem_nil _
  | @call history host run call ih =>
    -- this call is answered again at once, and what came before it is still listed
    refine List.forall_mem_cons.mpr ⟨answers_again run.session.upheld.intact,
      fun exchange among lists answered => ?_⟩
    · obtain ⟨listed, again⟩ := ih exchange among lists answered
      have same := run.listing_step listed call
      exact ⟨same.isEnumerated_eq.trans listed, same.answers lists listed again⟩
  | @turn history host run position switch ih =>
    intro exchange among lists answered
    obtain ⟨listed, again⟩ := ih exchange among lists answered
    have same := listing_turn host position switch
    exact ⟨same.isEnumerated_eq.trans listed, same.answers lists listed again⟩

/-- **Devices are found as asked, and found again.** After every run and for every live platform, a
search is refused exactly for a word without a meaning. Otherwise it gives the devices of the
platform that the word asks for, in the order of the platform, each once as long as there are
indices for all devices, and fails exactly if there are none. A search, and asking for the platform,
leave the host as it is and are answered the same at any later time. -/
theorem Run.devices_found (run : Run history host) :
    (∀ handle platform, host.registry.platforms.get? handle = some platform → ∀ mask : DeviceMask,
      ∃ found, host.Finds platform mask found ∧
        (platform.devices.length ≤ UInt32.size → found.Nodup) ∧
        step (.deviceIds handle mask) host =
          (if mask.Meaningful then
            if found = [] then .error (.deviceNotFound mask.bits.toNat) else .ok (.handles found)
          else .error (.invalidDeviceType mask.bits.toNat), host)) ∧
    ∀ exchange ∈ history, exchange.call.isListing = true →
      exchange.result ≠ .error (.invalidHandle .platform) →
        step exchange.call host = (exchange.result, host) := by
  obtain ⟨packed, intact, -, -⟩ := run.session.upheld
  refine ⟨fun handle platform there mask => ?_, fun exchange among lists answered =>
    (run.listings_kept exchange among lists answered).2⟩
  refine ⟨_, finds_filterDevices (live_devices intact packed there), fun room => ?_,
    step_deviceIds there⟩
  have once : platform.devices.Nodup := by
    rw [devices_of_platform intact there] at room ⊢
    exact packed.devices.nodup_handles room
  exact once.sublist (filterDevices_sublist _)

/-- An accelerator and a device of the host-processor class. -/
def mixed : Host SimulatedDevice := Host.new {} [.new 1 (.gpu "a" 64), .new 2 (.cpu "b" 64)]

/-- Devices are searched for before they are listed and after. -/
def searching : List Call :=
  [.deviceIds ⟨0, 1⟩ .gpu, .platformIds, .deviceIds ⟨0, 1⟩ .cpu, .deviceIds ⟨0, 1⟩ .accelerator,
    .createContext [⟨1, 1⟩] false]

/-- The first device comes first though it is of another class; the other device is found again, and
a device of the third class is still not found. -/
theorem devices_found_mixed :
    (∃ platform, (run searching mixed).2.registry.platforms.get? ⟨0, 1⟩ = some platform ∧
      (run searching mixed).2.Finds platform (.first ||| .cpu) [⟨0, 1⟩, ⟨1, 1⟩]) ∧
    step (.deviceIds ⟨0, 1⟩ .cpu) (run searching mixed).2 =
      (.ok (.handles [(⟨1, 1⟩ : DeviceHandle)]), (run searching mixed).2) ∧
    step (.deviceIds ⟨0, 1⟩ .accelerator) (run searching mixed).2 =
      (.error (.deviceNotFound 8), (run searching mixed).2) := by
  have reached : Run (record searching mixed) (run searching mixed).2 :=
    run_new {} [(1, .gpu "a" 64), (2, .cpu "b" 64)] searching
  obtain ⟨search, again⟩ := Run.devices_found reached
  have asked : (record searching mixed)[2]? =
      some ⟨.deviceIds ⟨0, 1⟩ .cpu, .ok (.handles [(⟨1, 1⟩ : DeviceHandle)])⟩ := by rfl
  have asked' : (record searching mixed)[1]? =
      some ⟨.deviceIds ⟨0, 1⟩ .accelerator, .error (.deviceNotFound 8)⟩ := by rfl
  refine ⟨?_, again _ (List.mem_of_getElem? asked) rfl nofun,
    again _ (List.mem_of_getElem? asked') rfl nofun⟩
  have listed : ((run searching mixed).2.registry.platforms.get? ⟨0, 1⟩).isSome = true := by rfl
  obtain ⟨platform, there⟩ := Option.isSome_iff_exists.mp listed
  obtain ⟨found, finds, -, answered⟩ := search ⟨0, 1⟩ platform there (.first ||| .cpu)
  have given : (step (.deviceIds ⟨0, 1⟩ (.first ||| .cpu)) (run searching mixed).2).1 =
      .ok (.handles [(⟨0, 1⟩ : DeviceHandle), ⟨1, 1⟩]) := by rfl
  rw [answered, if_pos (by decide)] at given
  split at given
  · cases given
  · cases given
    exact ⟨platform, there, finds⟩

end

end Host

end ComputeHost
