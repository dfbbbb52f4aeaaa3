/-
**The registry.**

Every object of a host lives in the arena of its kind. Programs, queues and buffers are also listed
in their context, in the order they were made.
-/

import ComputeHost.Arena
import ComputeHost.Host.Objects

namespace ComputeHost

/-- The object of a handle; a handle that is not live is an error of its kind. -/
def Arena.checked {kind : ObjectKind} {α : Type} (arena : Arena kind α) (handle : Handle kind) :
    Except HostError α :=
  match arena.get? handle with
  | some object => .ok object
  | none => .error (.invalidHandle kind)

theorem Arena.checked_eq_ok_iff {kind : ObjectKind} {α : Type} {arena : Arena kind α}
    {handle : Handle kind} {object : α} :
    arena.checked handle = .ok object ↔ arena.get? handle = some object := by
  rw [checked]
  cases arena.get? handle <;> simp

/-- All objects of a host. -/
structure Registry (δ : Type) where
  platforms : Arena ObjectKind.platform Platform := .empty
  devices : Arena ObjectKind.device (Device δ) := .empty
  contexts : Arena ObjectKind.context Context := .empty
  programs : Arena ObjectKind.program Program := .empty
  kernels : Arena ObjectKind.kernel Kernel := .empty
  buffers : Arena ObjectKind.buffer Buffer := .empty
  queues : Arena ObjectKind.queue Queue := .empty

namespace Registry

variable {δ : Type}

/-- Adds a program and lists it in its context. -/
def addProgram (registry : Registry δ) (program : Program) : ProgramHandle × Registry δ :=
  let (handle, programs) := registry.programs.insert program
  (handle,
    { registry with
      programs
      contexts := registry.contexts.modify program.context fun context =>
        { context with programs := context.programs ++ [handle] } })

/-- Adds a kernel and lists it in its program. -/
def addKernel (registry : Registry δ) (kernel : Kernel) : KernelHandle × Registry δ :=
  let (handle, kernels) := registry.kernels.insert kernel
  (handle,
    { registry with
      kernels
      programs := registry.programs.modify kernel.program fun program =>
        { program with kernels := program.kernels ++ [handle] } })

/-- Adds a buffer and lists it in its context. -/
def addBuffer (registry : Registry δ) (buffer : Buffer) : BufferHandle × Registry δ :=
  let (handle, buffers) := registry.buffers.insert buffer
  (handle,
    { registry with
      buffers
      contexts := registry.contexts.modify buffer.context fun context =>
        { context with buffers := context.buffers ++ [handle] } })

/-- Adds a queue and lists it in its context. -/
def addQueue (registry : Registry δ) (queue : Queue) : QueueHandle × Registry δ :=
  let (handle, queues) := registry.queues.insert queue
  (handle,
    { registry with
      queues
      contexts := registry.contexts.modify queue.context fun context =>
        { context with queues := context.queues ++ [handle] } })

end Registry

end ComputeHost
