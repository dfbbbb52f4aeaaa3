/-
**Several devices.**

Devices are numbered in the order in which they are made, and each draws its addresses from a window
of its own. Nothing keeps a device inside its window: addresses are not used again, and the capacity
bounds only what is live. So windows keep devices apart as long as no device has spent the way to
another one's window, and no longer.

* `Fleet.run_inWindows` — where the addresses of every device lie, after any requests.
* `Fleet.windows_apart` — as long as a device has not spent the way to a later one's window, no
  address is named by both.
* `Fleet.not_always_apart` — a device that has spent its window names the first address of the next
  device.
-/

import ComputeHost.Proofs.Device.Windows

namespace ComputeHost

open SimulatedDevice

/-- A device with what was asked of it. -/
structure Account where
  device : SimulatedDevice
  /-- The sizes of all blocks that the device made, freed or not. -/
  taken : List Nat := []
  /-- All addresses that the device named. -/
  given : List Address := []

namespace Account

variable {account : Account} {number : Nat} {address : Address}

/-- The account after one more request. -/
def ask (account : Account) (request : Request) : Account where
  device := request.perform account.device
  taken := account.taken ++ request.takes account.device
  given := account.given ++ request.gives account.device

/-- The blocks of the device are laid out from the start of its window. -/
structure InWindow (number : Nat) (account : Account) : Prop where
  ordered : account.device.heap.Ordered
  next : account.device.heap.next = windowBase number + Heap.spent account.taken
  live : ∀ extent ∈ account.device.heap.extents,
    extent ∈ Heap.laid (windowBase number) account.taken
  given : ∀ address ∈ account.given,
    ∃ size, (address, size) ∈ Heap.laid (windowBase number) account.taken

theorem inWindow_new (number : Nat) (properties : DeviceProperties) :
    InWindow number { device := new number properties } :=
  ⟨Heap.Ordered.start _ _, (Nat.add_zero (windowBase number)).symm, List.forall_mem_nil _,
    List.forall_mem_nil _⟩

/-- **A request keeps the blocks of a device laid out.** -/
theorem InWindow.ask (within : account.InWindow number) (request : Request) :
    (account.ask request).InWindow number := by
  obtain ⟨still, next, extents⟩ := Request.perform_heap within.ordered request
  have live : ∀ extent ∈ (request.perform account.device).heap.extents,
      extent ∈ Heap.laid (windowBase number) (account.taken ++ request.takes account.device) := by
    intro extent member
    rw [Heap.laid_append, ← within.next]
    exact List.mem_append.mpr ((extents extent member).imp_left (within.live extent))
  refine ⟨still, ?_, live, fun address named => ?_⟩
  · show (request.perform account.device).heap.next =
      windowBase number + Heap.spent (account.taken ++ request.takes account.device)
    rw [next, within.next, Heap.spent_append, Nat.add_assoc]
  · rcases List.mem_append.mp named with before | now
    · obtain ⟨size, member⟩ := within.given address before
      refine ⟨size, ?_⟩
      show (address, size) ∈
        Heap.laid (windowBase number) (account.taken ++ request.takes account.device)
      rw [Heap.laid_append]
      exact List.mem_append_left _ member
    · obtain ⟨size, member⟩ := Request.mem_extents_of_gives now
      exact ⟨size, live _ member⟩

/-- The addresses that were named lie between the start of the window and the next address. -/
theorem InWindow.bounds (within : account.InWindow number) (named : address ∈ account.given) :
    windowBase number ≤ address.value ∧
      address.value < windowBase number + Heap.spent account.taken :=
  let ⟨_, member⟩ := within.given address named
  Heap.laid_bounds member

end Account

/-- The devices in the order in which they were made. -/
abbrev Fleet := List Account

namespace Fleet

/-- What happens to devices. -/
inductive Event
  /-- One more device is made. -/
  | make (properties : DeviceProperties)
  /-- Something is asked of a device. -/
  | ask (index : Nat) (request : Request)

/-- The devices after an event. -/
def after (fleet : Fleet) : Event → Fleet
  | .make properties => fleet ++ [{ device := new (fleet.length + 1) properties }]
  | .ask index request => fleet.modify index fun account => account.ask request

/-- The devices after events one after the other. -/
def run (events : List Event) : Fleet := events.foldl after []

/-- The sizes of all blocks that a device made. -/
def taken (fleet : Fleet) (index : Nat) : List Nat := (fleet[index]?.map Account.taken).getD []

/-- All addresses that a device named. -/
def given (fleet : Fleet) (index : Nat) : List Address := (fleet[index]?.map Account.given).getD []

/-- Every device is in its window or beyond. -/
def InWindows (fleet : Fleet) : Prop :=
  ∀ index account, fleet[index]? = some account → Account.InWindow (index + 1) account

theorem InWindows.after {fleet : Fleet} (within : fleet.InWindows) (event : Event) :
    (fleet.after event).InWindows := by
  intro index account found
  cases event with
  | make properties =>
    have found : (fleet ++ [{ device := new (fleet.length + 1) properties }])[index]? =
        some account := found
    rw [List.getElem?_append] at found
    split at found
    · exact within index account found
    · rename_i beyond
      rw [List.getElem?_singleton] at found
      split at found
      · cases found
        obtain rfl : index = fleet.length := by omega
        exact Account.inWindow_new _ properties
      · cases found
  | ask place request =>
    have found : (fleet.modify place fun account => account.ask request)[index]? =
        some account := found
    rw [List.getElem?_modify] at found
    obtain ⟨before, there, same⟩ := Option.map_eq_some_iff.mp found
    have kept := within index before there
    split at same
    · rw [← same]
      exact kept.ask request
    · rw [← same]
      exact kept

theorem InWindows.run {fleet : Fleet} (within : fleet.InWindows) (events : List Event) :
    (events.foldl Fleet.after fleet).InWindows := by
  induction events generalizing fleet with
  | nil => exact within
  | cons event rest ih => exact ih (within.after event)

/-- **After any requests, every device has laid out its blocks from the start of its window.** -/
theorem run_inWindows (events : List Event) : (run events).InWindows := by
  have empty : InWindows [] := fun _ _ found => by cases found
  exact empty.run events

theorem taken_of_getElem? {fleet : Fleet} {index : Nat} {account : Account}
    (found : fleet[index]? = some account) : fleet.taken index = account.taken := by
  unfold taken
  rw [found]
  rfl

theorem given_of_mem {fleet : Fleet} {index : Nat} {address : Address}
    (named : address ∈ fleet.given index) :
    ∃ account, fleet[index]? = some account ∧ address ∈ account.given := by
  unfold given at named
  cases found : fleet[index]? with
  | none =>
    rw [found] at named
    cases named
  | some account =>
    rw [found] at named
    exact ⟨account, rfl, named⟩

/-- The addresses that a device names lie between the start of its window and its next address. -/
theorem InWindows.bounds {fleet : Fleet} (within : fleet.InWindows) {index : Nat}
    {address : Address} (named : address ∈ fleet.given index) :
    windowBase (index + 1) ≤ address.value ∧
      address.value < windowBase (index + 1) + Heap.spent (fleet.taken index) := by
  obtain ⟨account, found, member⟩ := given_of_mem named
  rw [taken_of_getElem? found]
  exact (within index account found).bounds member

/-- **Windows keep devices apart as long as they are not spent.** Every address that a device names
is that of a block laid out from the start of its window, and the next block that it makes is at the
end of these. So no address is named by two devices, unless all blocks that the earlier one made,
freed or not, span more than the distance of the windows. -/
theorem windows_apart (events : List Event) :
    (∀ index, ∀ address ∈ (run events).given index,
      ∃ size, (address, size) ∈ Heap.laid (windowBase (index + 1)) ((run events).taken index)) ∧
    (∀ index account residency size address device, (run events)[index]? = some account →
      allocateAs residency size account.device = .ok address device →
      address.value = windowBase (index + 1) + Heap.spent ((run events).taken index)) ∧
    ∀ one other, one < other →
      Heap.spent ((run events).taken one) ≤ (other - one) * UInt32.size →
      ((run events).given one).Disjoint ((run events).given other) := by
  have within := run_inWindows events
  refine ⟨fun index address named => ?_,
    fun index account residency size address device found made => ?_,
    fun one other before unspent address first second => ?_⟩
  · obtain ⟨account, found, member⟩ := given_of_mem named
    rw [taken_of_getElem? found]
    exact (within index account found).given address member
  · rw [taken_of_getElem? found, ← (within index account found).next,
      (Heap.allocate_inv (allocateAs_ok made)).2.1]
  · -- the earlier device has not come to where the later one starts
    have last := (within.bounds first).2
    have start := (within.bounds second).1
    unfold windowBase at last start
    have apart : (other + 1) * UInt32.size =
        (one + 1) * UInt32.size + (other - one) * UInt32.size := by
      rw [← Nat.add_mul]
      congr 1
      omega
    omega

/-- Each of two devices makes a small block. -/
def beginning : List Event :=
  [.make (.gpu "a" DeviceProperties.defaultMemory),
    .make (.gpu "b" DeviceProperties.defaultMemory), .ask 0 .select, .ask 0 (.allocate 4),
    .ask 1 .select, .ask 1 (.allocate 4)]

/-- The two blocks have different addresses, and the next one lies 256 bytes on. -/
theorem windows_apart_beginning :
    (run beginning).given 0 = [⟨0x100000000⟩] ∧ (run beginning).given 1 = [⟨0x200000000⟩] ∧
      ((run beginning).given 0).Disjoint ((run beginning).given 1) ∧
      ∃ account device, (run beginning)[0]? = some account ∧
        allocateAs .deviceOnly 4 account.device = .ok ⟨0x100000100⟩ device ∧
        0x100000100 = windowBase 1 + Heap.spent ((run beginning).taken 0) := by
  have apart := windows_apart beginning
  have next : (run beginning)[0]?.map (fun account =>
      Request.granted (allocateAs .deviceOnly 4 account.device)) = some [⟨0x100000100⟩] := by
    decide +kernel
  obtain ⟨account, found, grants⟩ := Option.map_eq_some_iff.mp next
  obtain ⟨device, made⟩ := Request.mem_granted.mp (grants ▸ List.mem_singleton_self _)
  exact ⟨by decide +kernel, by decide +kernel, apart.2.2 0 1 (by decide) (by decide +kernel),
    account, device, found, made, apart.2.1 0 account _ _ _ device found made⟩

/-- The second device makes a small block. The first one makes and frees a block of all its memory
sixteen times, and then makes a small one. -/
def wearing : List Event :=
  [.make (.gpu "a" DeviceProperties.defaultMemory),
    .make (.gpu "b" DeviceProperties.defaultMemory), .ask 1 .select, .ask 1 (.allocate 4),
    .ask 0 .select] ++
  ((List.range 16).flatMap fun turn =>
    [.ask 0 (.allocate 0x10000000), .ask 0 (.free ⟨0x100000000 + turn * 0x10000000⟩)]) ++
  [.ask 0 (.allocate 4)]

/-- Windows do not keep devices apart for ever. -/
theorem not_always_apart :
    ¬ ∀ (events : List Event) (one other : Nat), one ≠ other →
      ((run events).given one).Disjoint ((run events).given other) := by
  intro claim
  have last : (⟨0x200000000⟩ : Address) ∈ (run wearing).given 0 := by decide +kernel
  have first : (⟨0x200000000⟩ : Address) ∈ (run wearing).given 1 := by decide +kernel
  exact claim wearing 0 1 (by decide) last first

end Fleet

end ComputeHost
