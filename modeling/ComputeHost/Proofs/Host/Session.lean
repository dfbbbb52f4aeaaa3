/-
**References in every state that a host can reach.**

A session starts a host with devices of any kind and is a sequence of calls; whoever gave the
devices may change them at any time. What the objects of the host refer to each other by holds after
every session, and so does what was answered.

* `Registry.OnceEach` — no handle is listed twice.
* `Session.upheld` — references are intact, objects are filed in the order of the history, and every
  handle that was given is live.
* `Session.references_hold` — the same with what follows from it: a call is refused for a handle
  only if it was given one that is not live.
-/

import ComputeHost.Proofs.Arena.Refinement
import ComputeHost.Proofs.Host.Filing
import ComputeHost.Proofs.Host.Run

set_option linter.unusedSectionVars false

namespace ComputeHost

/-! ### Listed once -/

namespace Arena.Packed

variable {κ : Type} [DecidableEq κ] {tag : κ} {α : Type} {arena : Arena tag α}

theorem length_handles (packed : arena.Packed) : arena.handles.length = arena.slots.length := by
  have full : ∀ slot ∈ arena.slots, slot.content.isSome = true :=
    fun slot among => (packed.filled slot among).2
  rw [handles, List.length_map, ← List.length_map (f := Prod.snd), ← objects, objects_eq,
    List.length_filterMap_eq_countP, List.countP_eq_length.mpr full]

/-- An arena that has indices for all its slots lists no handle twice. -/
theorem nodup_handles (packed : arena.Packed) (room : arena.handles.length ≤ UInt32.size) :
    arena.handles.Nodup :=
  (lists_entries (packed.length_handles ▸ room)).nodup

end Arena.Packed

namespace Registry

variable {δ : Type} {registry : Registry δ}

/-- **No handle is listed twice**, neither by the registry nor by an object. -/
structure OnceEach (registry : Registry δ) : Prop where
  handles : ∀ kind, (registry.handlesOf kind).Nodup
  platforms : ∀ platform ∈ registry.platforms.objects, platform.devices.Nodup
  contexts : ∀ handle context, registry.contexts.get? handle = some context →
    context.programs.Nodup ∧ context.queues.Nodup ∧ context.buffers.Nodup
  programs : ∀ handle program, registry.programs.get? handle = some program →
    program.kernels.Nodup

theorem Packed.nodup_handlesOf (packed : registry.Packed) {kind : ObjectKind}
    (room : (registry.handlesOf kind).length ≤ UInt32.size) : (registry.handlesOf kind).Nodup := by
  cases kind with
  | platform => exact packed.platforms.nodup_handles room
  | device => exact packed.devices.nodup_handles room
  | context => exact packed.contexts.nodup_handles room
  | program => exact packed.programs.nodup_handles room
  | kernel => exact packed.kernels.nodup_handles room
  | buffer => exact packed.buffers.nodup_handles room
  | queue => exact packed.queues.nodup_handles room

/-- What belongs to an owner is listed in part, so no handle twice. -/
theorem Intact.onceEach (intact : registry.Intact)
    (nodup : ∀ kind, (registry.handlesOf kind).Nodup) : registry.OnceEach where
  handles := nodup
  platforms := by
    intro platform among
    rcases intact.platform with ⟨no_platform, -⟩ | ⟨-, handle, entry, listed, all, -⟩
    · rw [no_platform] at among
      cases among
    · rw [Arena.objects, listed, List.map_singleton, List.mem_singleton] at among
      rw [among, all]
      exact nodup .device
  contexts := by
    intro handle context found
    refine ⟨?_, ?_, ?_⟩
    · rw [intact.programs.listed handle context found]
      exact (nodup .program).sublist (Arena.handlesWhere_sublist _ _)
    · rw [intact.queues.listed handle context found]
      exact (nodup .queue).sublist (Arena.handlesWhere_sublist _ _)
    · rw [intact.buffers.listed handle context found]
      exact (nodup .buffer).sublist (Arena.handlesWhere_sublist _ _)
  programs := by
    intro handle program found
    rw [intact.kernels.listed handle program found]
    exact (nodup .kernel).sublist (Arena.handlesWhere_sublist _ _)

end Registry

namespace Host

open ComputeHost.Action

variable {δ : Type} {host before after : Host δ} {history : List Exchange}

/-! ### Sessions -/

/-- The handles of a kind that calls made, the first in front. -/
def madeOf (kind : ObjectKind) (history : List Exchange) : List (Handle kind) :=
  history.reverse.filterMap fun exchange =>
    exchange.result.toOption.bind fun answer => answer.made? kind

theorem madeOf_error (kind : ObjectKind) (call : Call) (error : HostError) :
    madeOf kind (⟨call, .error error⟩ :: history) = madeOf kind history := by
  simp [madeOf, Except.toOption]

theorem madeOf_ok (kind : ObjectKind) (call : Call) (answer : Answer) :
    madeOf kind (⟨call, .ok answer⟩ :: history) =
      madeOf kind history ++ (answer.made? kind).toList := by
  cases made : answer.made? kind <;> simp [madeOf, Except.toOption, made]

/-- The hosts that can be reached with devices of any kind, with the calls so far and their results,
the last in front. -/
inductive Session [DeviceDriver δ] : List Exchange → Host δ → Prop
  | start (settings : Settings) (devices : List δ) : Session [] (Host.new settings devices)
  | call {history : List Exchange} {host : Host δ} (session : Session history host) (call : Call) :
      Session (⟨call, (step call host).1⟩ :: history) (step call host).2
  | adjust {history : List Exchange} {host : Host δ} (session : Session history host)
      (position : Nat) (change : δ → δ) : Session history (host.adjust position change)

/-- What holds of the references of a host after the calls. -/
structure Upheld (history : List Exchange) (host : Host δ) : Prop where
  packed : host.registry.Packed
  intact : host.registry.Intact
  /-- Objects are filed in the order in which they were made. -/
  filed : ∀ kind, kind ≠ .platform → kind ≠ .device →
    host.registry.handlesOf kind = madeOf kind history
  /-- What was given is live. -/
  live : ∀ exchange ∈ history, ∀ answer, exchange.result = .ok answer →
    ∀ handle ∈ answer.named, host.registry.isLive handle.2 = true

namespace Upheld

theorem aside (upheld : Upheld history before) (aside : before.registry.Aside after.registry) :
    Upheld history after where
  packed := upheld.packed.aside aside
  intact := upheld.intact.aside aside
  filed := fun kind not_platform not_device =>
    (aside.handlesOf_eq kind).trans (upheld.filed kind not_platform not_device)
  live := fun exchange among answer done handle named =>
    (aside.isLive_eq handle.2).trans (upheld.live exchange among answer done handle named)

theorem failed (upheld : Upheld history host) {call : Call} {error : HostError} :
    Upheld (⟨call, .error error⟩ :: history) host :=
  { upheld with
    filed := fun kind not_platform not_device => by
      rw [madeOf_error]
      exact upheld.filed kind not_platform not_device
    live := List.forall_mem_cons.mpr ⟨nofun, upheld.live⟩ }

/-- An answer without a new object. -/
theorem answered (upheld : Upheld history host) {call : Call} {answer : Answer}
    (plain : host.Plain answer) : Upheld (⟨call, .ok answer⟩ :: history) host :=
  { upheld with
    filed := fun kind not_platform not_device => by
      rw [madeOf_ok, plain.made, Option.toList_none, List.append_nil]
      exact upheld.filed kind not_platform not_device
    live := List.forall_mem_cons.mpr
      ⟨fun _ done => by cases done; exact plain.live, upheld.live⟩ }

theorem added (upheld : Upheld history before) {registry : Registry δ} {kind : ObjectKind}
    {handle : Handle kind} (addition : before.registry.Addition kind handle registry)
    {call : Call} : Upheld (⟨call, .ok (.handle handle)⟩ :: history) { before with registry } where
  packed := addition.packed upheld.packed
  intact := upheld.intact.added upheld.packed addition
  filed := fun other not_platform not_device => by
    rw [madeOf_ok, ← upheld.filed other not_platform not_device]
    exact addition.handlesOf_eq upheld.packed other
  live := by
    refine List.forall_mem_cons.mpr ⟨fun _ done => ?_, fun exchange among answer done old named =>
      addition.isLive_of_isLive upheld.packed (upheld.live exchange among answer done old named)⟩
    cases done
    exact List.forall_mem_singleton.mpr (addition.isLive_self upheld.packed)

theorem listed (upheld : Upheld history host) (unlisted : host.isEnumerated = false) :
    Upheld history host.enumerate := by
  obtain ⟨intact, packed, live, same⟩ := intact_enumerate upheld.intact upheld.packed unlisted
  exact
    { packed
      intact
      filed := fun kind not_platform not_device =>
        (same kind not_platform not_device).trans (upheld.filed kind not_platform not_device)
      live := fun exchange among answer done handle named =>
        live handle.1 handle.2 (upheld.live exchange among answer done handle named) }

/-- **Every call keeps what holds of the references.** -/
theorem step {call : Call} {result : Except HostError Answer} (upheld : Upheld history before)
    (filed : Filed before call result after) : Upheld (⟨call, result⟩ :: history) after := by
  cases filed with
  | aside aside _ plain =>
    have kept := upheld.aside aside
    cases result with
    | error error => exact kept.failed
    | ok answer =>
      obtain ⟨made, live⟩ := plain answer rfl
      exact kept.answered ⟨made, fun handle named =>
        (aside.isLive_eq handle.2).trans (live handle named)⟩
  | listed unlisted =>
    have kept := upheld.listed unlisted
    refine kept.answered ⟨fun _ => rfl, fun handle named => ?_⟩
    obtain ⟨platform, member, rfl⟩ := List.mem_map.mp named
    exact kept.packed.isLive_of_mem (List.mem_of_mem_take member)
  | added aside addition => exact (upheld.aside aside).added addition

end Upheld

/-- A device that was changed from outside is still filed as it was. -/
theorem aside_adjust (host : Host δ) (position : Nat) (change : δ → δ) :
    host.registry.Aside (host.adjust position change).registry := by
  unfold adjust
  split
  · split
    · exact { Registry.Aside.refl host.registry with
        devices := Arena.faces_modify (by simp) _ _ }
    · exact .refl _
  · exact .refl _

section

variable [DeviceDriver δ]

theorem Session.upheld (session : Session history host) : Upheld history host := by
  induction session with
  | start settings devices =>
    exact ⟨Registry.packed_empty, Registry.intact_empty, fun kind _ _ => by cases kind <;> rfl,
      List.forall_mem_nil _⟩
  | call _ call upheld => exact upheld.step (step_filed upheld.intact upheld.packed call)
  | adjust _ position change upheld => exact upheld.aside (aside_adjust _ position change)

/-- **References hold in every state that a host can reach.** All that objects refer to is live and
agrees; objects are listed in the order in which they were made, and as long as there are indices
for them once each. So every handle that a call gave stays live, and a call is refused for a handle
of some kind only if it was given one of this kind that is not live. -/
theorem Session.references_hold (session : Session history host) :
    host.registry.Intact ∧
    (∀ kind, kind ≠ .platform → kind ≠ .device →
      host.registry.handlesOf kind = madeOf kind history) ∧
    ((∀ kind, (host.registry.handlesOf kind).length ≤ UInt32.size) → host.registry.OnceEach) ∧
    (∀ exchange ∈ history, ∀ answer, exchange.result = .ok answer →
      ∀ handle ∈ answer.named, host.registry.isLive handle.2 = true) ∧
    ∀ call kind, (Host.step call host).1 = .error (.invalidHandle kind) →
      host.Excuses call kind := by
  have upheld := session.upheld
  refine ⟨upheld.intact, upheld.filed, fun room => upheld.intact.onceEach fun kind =>
    upheld.packed.nodup_handlesOf (room kind), upheld.live, fun call kind refused => ?_⟩
  have filed := step_filed upheld.intact upheld.packed call
  rw [refused] at filed
  cases filed with
  | aside _ excused _ => exact excused _ rfl kind rfl

end

/-- Every run is a session. -/
theorem Run.session {host : Host SimulatedDevice} (run : Run history host) :
    Session history host := by
  induction run with
  | start settings devices => exact .start settings _
  | call _ call session => exact session.call call
  | turn _ position switch session => exact session.adjust position _

/-- Two kernels of one program, and two queues, in one context. -/
def filing : List Call :=
  [.platformIds, .createContext [⟨1, 1⟩, ⟨0, 1⟩] false, .createQueue ⟨0, 1⟩ ⟨0, 1⟩ ⟨0⟩,
    .createProgram ⟨0, 1⟩ ["\x7b\"kernels\":[\x7b\"name\":\"k\",\"params\":[]\x7d]\x7d"],
    .buildProgram ⟨0, 1⟩ none none false, .createKernel ⟨0, 1⟩ "k", .createQueue ⟨0, 1⟩ ⟨1, 1⟩ ⟨0⟩,
    .createKernel ⟨0, 1⟩ "k"]

/-- The kernels and the queues are listed as they were made, and a third queue is refused. -/
theorem references_hold_filing :
    (run filing (twin 64 64)).2.registry.OnceEach ∧
    madeOf .kernel (record filing (twin 64 64)) = [⟨0, 1⟩, ⟨1, 1⟩] ∧
    ((run filing (twin 64 64)).2.registry.programs.get? ⟨0, 1⟩).map Program.kernels =
      some [⟨0, 1⟩, ⟨1, 1⟩] ∧
    ((run filing (twin 64 64)).2.registry.contexts.get? ⟨0, 1⟩).map Context.queues =
      some [⟨0, 1⟩, ⟨1, 1⟩] ∧
    (run filing (twin 64 64)).2.Excuses (.finish ⟨2, 1⟩) .queue := by
  obtain ⟨-, -, once, -, excused⟩ := (run_twin 64 64 filing).session.references_hold
  have room : ∀ kind : ObjectKind,
      ((run filing (twin 64 64)).2.registry.handlesOf kind).length ≤ UInt32.size := by
    intro kind
    cases kind <;> decide +kernel
  have absent : (run filing (twin 64 64)).2.registry.queues.contains ⟨2, 1⟩ = false := by
    decide +kernel
  have refused : (step (.finish ⟨2, 1⟩) (run filing (twin 64 64)).2).1 =
      .error (.invalidHandle .queue) := by
    have gone := Option.not_isSome_iff_eq_none.mp (Bool.eq_false_iff.mp absent)
    have fails : perform (.finish ⟨2, 1⟩) (run filing (twin 64 64)).2 =
        .error (.invalidHandle .queue) (run filing (twin 64 64)).2 :=
      bind_of_error (check_of_error (by rw [Arena.checked, gone]; rfl))
    rw [step_of_error fails]
  exact ⟨once room, by decide +kernel, by decide +kernel, by decide +kernel,
    excused _ _ refused⟩

end Host

end ComputeHost
