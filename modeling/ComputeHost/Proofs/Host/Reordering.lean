/-
**Migrating in another order of the modules.**

The modules of a device come in no order that a migration could count on. Nothing depends on it:
allocations move without a look at modules, every global variable has a place of its own on the
target, and the source is only read. What a migration does with its modules in one order it does
with them in any other, and it refuses in every order if one of their variables is not on both
devices; only the variable that it names may be another one (`Alike`).

* `Heap.write_comm` — writes at two addresses may change places.
* `copyGlobals_perm` — so may the copies of global variables.
* `migrate_perm` — and the modules of a migration.
* `migrations_alike` — on devices in use, and on two devices of any host that a run reaches.
-/

import ComputeHost.Proofs.Device.Relocation
import ComputeHost.Proofs.Host.Frame

namespace ComputeHost

/-! ### Writes at two addresses -/

namespace Heap

variable {heap one both : Heap} {first second : Address} {offset start : Nat} {data more : Block}

theorem replaceBlock_comm (cells : List (Address × Cell)) (apart : first ≠ second)
    (block other : Block) :
    replaceBlock (replaceBlock cells first block) second other =
      replaceBlock (replaceBlock cells second other) first block := by
  unfold replaceBlock
  rw [List.map_map, List.map_map]
  refine List.map_congr_left fun (place, cell) _ => ?_
  simp only [Function.comp_apply]
  by_cases here : place = first <;> by_cases there : place = second <;> simp_all

/-- **Writes at two addresses may change places.** -/
theorem write_comm (apart : first ≠ second) (done : Heap.write first offset data heap = .ok () one)
    (next : Heap.write second start more one = .ok () both) :
    ∃ other, Heap.write second start more heap = .ok () other ∧
      Heap.write first offset data other = .ok () both := by
  obtain ⟨cell, block, found, written, rfl⟩ := write_eq_ok_iff.mp done
  obtain ⟨cell', block', found', written', rfl⟩ := write_eq_ok_iff.mp next
  have still : heap.find? second = some cell' := by
    rw [← found']
    unfold find?
    rw [lookup_replaceBlock, if_neg apart.symm]
  refine ⟨_, write_eq_ok_iff.mpr ⟨cell', block', still, written', rfl⟩,
    write_eq_ok_iff.mpr ⟨cell, block, ?_, written, ?_⟩⟩
  · rw [← found]
    unfold find?
    rw [lookup_replaceBlock, if_neg apart]
  · rw [replaceBlock_comm _ apart]

end Heap

namespace Migration

variable {pair : DevicePair SimulatedDevice} {entries others : List (Allocation × Allocation)}
  {modules reordered : List KernelModule}

/-! ### Copies of global variables in another order -/

/-- A write leaves all storage where it is. -/
theorem Backs.of_write {heap after : Heap} {allocation : Allocation} {address : Address}
    {offset : Nat} {data : Block} (backs : Backs heap allocation)
    (done : Heap.write address offset data heap = .ok () after) : Backs after allocation := by
  obtain ⟨bytes, live, size⟩ := backs
  obtain ⟨content, before, within, view⟩ := Heap.content?_write done
  by_cases here : allocation.address = address
  · rw [← here, live] at before
    cases before
    exact ⟨_, by rw [view, if_pos here], (Bytes.splice_length (by simpa using within)).trans size⟩
  · exact ⟨bytes, by rw [view, if_neg here, live], size⟩

/-- Copies of two variables may change places. -/
theorem copyGlobals_swap {one other : Allocation × Allocation}
    (apart : one.2.address ≠ other.2.address)
    (leaving : Backs pair.source.heap one.1) (entering : Backs pair.target.heap one.2)
    (leaving' : Backs pair.source.heap other.1) (entering' : Backs pair.target.heap other.2)
    (rest : List (Allocation × Allocation)) :
    copyGlobals (one :: other :: rest) pair = copyGlobals (other :: one :: rest) pair := by
  obtain ⟨block, filled, read, wrote, run⟩ := copyGlobals_step leaving entering
  obtain ⟨block', filled', read', wrote', run'⟩ := copyGlobals_step leaving' entering'
  let middle : DevicePair SimulatedDevice :=
    ⟨pair.source.visited, { pair.target.visited with heap := filled }⟩
  let middle' : DevicePair SimulatedDevice :=
    ⟨pair.source.visited, { pair.target.visited with heap := filled' }⟩
  -- the second copy reads and finds what it would have at first
  have stays : Backs middle.source.heap other.1 ∧ Backs middle.target.heap other.2 :=
    ⟨leaving', entering'.of_write wrote⟩
  have stays' : Backs middle'.source.heap one.1 ∧ Backs middle'.target.heap one.2 :=
    ⟨leaving, entering.of_write wrote'⟩
  obtain ⟨again, both, reading, writing, next⟩ := copyGlobals_step stays.1 stays.2
  obtain ⟨again', both', reading', writing', next'⟩ := copyGlobals_step stays'.1 stays'.2
  cases reading.symm.trans read'
  cases reading'.symm.trans read
  obtain ⟨swapped, first, last⟩ := Heap.write_comm apart wrote writing
  cases first.symm.trans wrote'
  cases last.symm.trans writing'
  rw [run, run', next, next']
  rfl

/-- **Copies of global variables may be made in any order.** -/
theorem copyGlobals_perm (perm : entries.Perm others) (ordered : pair.target.heap.Ordered)
    (backs : ∀ entry ∈ entries, Backs pair.source.heap entry.1 ∧ Backs pair.target.heap entry.2)
    (matched : Matched entries) : copyGlobals entries pair = copyGlobals others pair := by
  induction perm generalizing pair with
  | nil => rfl
  | cons entry _ ih =>
    obtain ⟨⟨leaving, entering⟩, later⟩ := List.forall_mem_cons.mp backs
    obtain ⟨middle, first, run⟩ := copyGlobals_cons ordered leaving entering
    rw [run, run]
    refine ih first.ordered (fun other member => ?_) fun one member other among =>
      matched one (List.mem_cons_of_mem _ member) other (List.mem_cons_of_mem _ among)
    obtain ⟨leaving, entering⟩ := later other member
    exact ⟨first.sourceHeap ▸ leaving, entering.mono first.keeps⟩
  | swap one other rest =>
    by_cases same : other.2.address = one.2.address
    · rw [matched other List.mem_cons_self one (List.mem_cons_of_mem _ List.mem_cons_self) same]
    · obtain ⟨leaving, entering⟩ := backs other List.mem_cons_self
      obtain ⟨leaving', entering'⟩ := backs one (List.mem_cons_of_mem _ List.mem_cons_self)
      exact copyGlobals_swap same leaving entering leaving' entering' rest
  | trans first _ ih ih' =>
    have mem := fun entry => (first.mem_iff (a := entry)).mpr
    rw [ih ordered backs matched]
    exact ih' ordered (fun entry member => backs entry (mem entry member)) fun one member other
      among => matched one (mem one member) other (mem other among)

/-! ### Migrations with their modules in another order -/

/-- One outcome twice, or refusals in one state that name different variables. -/
inductive Alike {σ α : Type} :
    EStateM.Result HostError σ α → EStateM.Result HostError σ α → Prop
  | same (outcome : EStateM.Result HostError σ α) : Alike outcome outcome
  | refused (first second : String) (state : σ) :
      Alike (.error (.invalidValue first) state) (.error (.invalidValue second) state)

theorem Alike.of_ok {σ α : Type} {one other : EStateM.Result HostError σ α} {value : α} {state : σ}
    (alike : Alike one other) (done : one = .ok value state) : other = .ok value state := by
  cases alike with
  | same => exact done
  | refused => cases done

/-- The storage of the variables is found in any order of the modules. -/
theorem storagePairs_perm (perm : modules.Perm reordered)
    (found : storagePairs pair modules = .ok entries) :
    ∃ others, storagePairs pair reordered = .ok others ∧ entries.Perm others :=
  Action.except_mapM_perm (perm.flatMap_right _) found

/-- A migration that finds the storage of its variables in two orders does the same in both. -/
theorem migrate_eq_of_perm (source : pair.source.Orderly) (target : pair.target.Orderly)
    (found : storagePairs pair modules = .ok entries)
    (found' : storagePairs pair reordered = .ok others) (perm : entries.Perm others) :
    migrate modules pair = migrate reordered pair := by
  rw [migrate_of_ok found, migrate_of_ok found']
  obtain ⟨moved, middle, run, keys, outcome⟩ := relocate_run source.ordered target.ordered
    (describes_nonGlobal source.ordered) source.ordered.nonGlobal_nodup
  rcases outcome with ⟨_, ran⟩ | ⟨_, requested, available, failed⟩
  · rw [Action.bind_of_ok ran, Action.bind_of_ok ran]
    obtain ⟨here, there⟩ := run.keepsGlobals target.ordered (moved_data source.ordered keys)
    have backs : ∀ entry ∈ entries,
        Backs middle.source.heap entry.1 ∧ Backs middle.target.heap entry.2 := by
      intro entry member
      obtain ⟨leaving, entering⟩ := storagePairs_backs source target found entry member
      exact ⟨leaving.mono here, entering.mono there⟩
    have copies := copyGlobals_perm perm run.targetOrdered backs (storagePairs_matched target found)
    obtain ⟨after, copied, _⟩ := copyGlobals_run run.targetOrdered backs
    rw [Action.bind_of_ok copied, Action.bind_of_ok (copies ▸ copied)]
  · rw [Action.bind_of_error failed, Action.bind_of_error failed]

/-- **The order of its modules does not matter for a migration.** -/
theorem migrate_perm (source : pair.source.Orderly) (target : pair.target.Orderly)
    (perm : modules.Perm reordered) : Alike (migrate modules pair) (migrate reordered pair) := by
  cases found : storagePairs pair modules with
  | ok entries =>
    obtain ⟨others, found', same⟩ := storagePairs_perm perm found
    rw [migrate_eq_of_perm source target found found' same]
    exact .same _
  | error error =>
    cases found' : storagePairs pair reordered with
    | ok others =>
      obtain ⟨_, there, _⟩ := storagePairs_perm perm.symm found'
      cases found.symm.trans there
    | error error' =>
      obtain ⟨first, rfl⟩ := storagePairs_error found
      obtain ⟨second, rfl⟩ := storagePairs_error found'
      rw [migrate_of_error found, migrate_of_error found']
      exact .refused first second pair

end Migration

namespace Host

open Migration

variable {history : List Exchange} {host : Host SimulatedDevice} {source target : DeviceHandle}
  {modules reordered : List KernelModule}

/-- Nor does it for two devices of a host. -/
theorem migratePair_perm
    (sound : ∀ handle device, host.backend? handle = some device → device.Sound)
    (perm : modules.Perm reordered) :
    Alike (migratePair source target modules host) (migratePair source target reordered host) := by
  unfold migratePair
  cases pairing : host.registry.devices.getPair? source target with
  | none => exact .same _
  | some devices =>
    obtain ⟨leaving, entering⟩ := devices
    obtain ⟨_, leave, enter⟩ := getPair?_eq_some pairing
    have alike : Alike (migrate modules ⟨leaving.backend, entering.backend⟩)
        (migrate reordered ⟨leaving.backend, entering.backend⟩) :=
      migrate_perm (sound source _ leave).orderly (sound target _ enter).orderly perm
    simp only
    generalize migrate modules ⟨leaving.backend, entering.backend⟩ = one at alike
    generalize migrate reordered ⟨leaving.backend, entering.backend⟩ = other at alike
    cases alike with
    | same outcome => exact .same _
    | refused first second state => exact .refused first second _

/-- **Migrations do not depend on the order of the modules**: neither of two devices in use by
themselves, nor of two devices of a host that a run has reached. -/
theorem migrations_alike (perm : modules.Perm reordered) :
    (∀ pair : DevicePair SimulatedDevice, pair.source.Reached → pair.target.Reached →
      Alike (migrate modules pair) (migrate reordered pair)) ∧
    ∀ history host source target, Run history host →
      Alike (migratePair source target modules host)
        (migratePair source target reordered host) :=
  ⟨fun _ source target => migrate_perm source.orderly target.orderly perm,
    fun _ _ _ _ run => migratePair_perm run.regular.sound perm⟩

/-- Modules of two and of one variable. -/
def flanked : List KernelModule :=
  [⟨"m", [], [⟨"low", 4, some [9, 8, 7, 6]⟩, ⟨"high", 2, none⟩],
      "\x7b\"globals\":[\x7b\"name\":\"low\",\"size\":4,\"init\":[9,8,7,6]\x7d," ++
        "\x7b\"name\":\"high\",\"size\":2\x7d]\x7d"⟩,
    ⟨"n", [], [⟨"table", 3, none⟩], "\x7b\"globals\":[\x7b\"name\":\"table\",\"size\":3\x7d]\x7d"⟩]

/-- A device that holds both, after other requests. -/
def flankedOn (number : Nat) (requests : List SimulatedDevice.Request) : SimulatedDevice :=
  (SimulatedDevice.Request.select :: flanked.map .loadModule ++ requests).foldl
    SimulatedDevice.Request.perform (.new number (.gpu "a" 64))

/-- One allocation to move, and a variable that was written to. -/
def flankedPair : DevicePair SimulatedDevice where
  source := flankedOn 1 [.write ⟨4294967808⟩ 0 (.ofBytes [5]), .allocate 8]
  target := flankedOn 2 []

/-- The variable that a migration names when it refuses. -/
def refusal? {σ α : Type} : EStateM.Result HostError σ α → Option String
  | .error (.invalidValue reason) _ => some reason
  | _ => none

/-- Both orders move what was allocated; on devices without the modules they name a variable each.
-/
theorem migrations_alike_flanked :
    (∃ after, migrate flanked flankedPair = .ok [(⟨4294968064⟩, ⟨8589935360⟩)] after ∧
        migrate flanked.reverse flankedPair = .ok [(⟨4294968064⟩, ⟨8589935360⟩)] after) ∧
      ∃ after,
        migratePair ⟨0, 1⟩ ⟨1, 1⟩ flanked (run [.platformIds] (twin 8 8)).2 =
          .error (.invalidValue "global 'low' of module 'm' is not mirrored on both devices")
            after ∧
        migratePair ⟨0, 1⟩ ⟨1, 1⟩ flanked.reverse (run [.platformIds] (twin 8 8)).2 =
          .error (.invalidValue "global 'table' of module 'n' is not mirrored on both devices")
            after := by
  obtain ⟨onDevices, onHosts⟩ := migrations_alike (List.reverse_perm flanked).symm
  have reached : ∀ number requests, (flankedOn number requests).Reached :=
    fun number requests => .foldl (.new number _) _
  constructor
  · have given : (migrate flanked).run' flankedPair = some [(⟨4294968064⟩, ⟨8589935360⟩)] := by
      decide +kernel
    have alike := onDevices flankedPair (reached _ _) (reached _ _)
    unfold EStateM.run' EStateM.run at given
    cases ran : migrate flanked flankedPair with
    | ok moved after =>
      rw [ran] at given
      obtain rfl := Option.some.inj given
      exact ⟨after, rfl, alike.of_ok ran⟩
    | error error after =>
      rw [ran] at given
      cases given
  · have here : refusal? (migratePair ⟨0, 1⟩ ⟨1, 1⟩ flanked (run [.platformIds] (twin 8 8)).2) =
        some "global 'low' of module 'm' is not mirrored on both devices" := by decide +kernel
    have there : refusal?
          (migratePair ⟨0, 1⟩ ⟨1, 1⟩ flanked.reverse (run [.platformIds] (twin 8 8)).2) =
        some "global 'table' of module 'n' is not mirrored on both devices" := by decide +kernel
    have alike := onHosts _ _ ⟨0, 1⟩ ⟨1, 1⟩ (run_twin 8 8 [.platformIds])
    generalize migratePair ⟨0, 1⟩ ⟨1, 1⟩ flanked (run [.platformIds] (twin 8 8)).2 = one
      at alike here
    generalize migratePair ⟨0, 1⟩ ⟨1, 1⟩ flanked.reverse (run [.platformIds] (twin 8 8)).2 = other
      at alike there
    cases alike with
    | same outcome =>
      rw [here] at there
      exact absurd there (by decide)
    | refused first second after =>
      cases here
      cases there
      exact ⟨after, rfl, rfl⟩

end Host

end ComputeHost
