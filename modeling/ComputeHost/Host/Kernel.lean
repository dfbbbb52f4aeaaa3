/-
**Kernels and their arguments.**

A kernel of a built program has one place per parameter. An argument is a run of bytes; what it
means is decided when the kernel is launched.
-/

import ComputeHost.Host.Program

namespace ComputeHost

/-- What can be asked of a kernel. -/
inductive KernelQuery
  | functionName
  | numArgs
  | program
  | context
  /-- The group counts of the geometry last accepted for a launch, zeros before the first. -/
  | workGroupCount
  deriving DecidableEq

/-- The answer of a kernel. -/
def Kernel.info (kernel : Kernel) : KernelQuery → InfoValue
  | .functionName => .text kernel.name
  | .numArgs => .uint (UInt32.ofNat kernel.arguments.length)
  | .program => .program kernel.program
  | .context => .context kernel.context
  | .workGroupCount =>
    .sizes
      (match kernel.geometry with
      | some geometry => geometry.groups.toList.map UInt64.ofNat
      | none => [0, 0, 0])

namespace Host

variable {δ : Type}

/-- Checks a new kernel and gives it, without arguments. -/
def checkKernel (program : ProgramHandle) (name : String) (host : Host δ) :
    Except HostError Kernel := do
  let entry ← host.registry.programs.checked program
  match (← host.programModule entry).kernel? name with
  | none => throw (.kernelNotFound name)
  | some signature =>
    return { program, context := entry.context, name,
             arguments := List.replicate signature.parameters.length none }

/-- Makes a kernel of a built program. -/
def createKernel (program : ProgramHandle) (name : String) : HostAction δ KernelHandle := do
  let kernel ← check (checkKernel program name)
  register fun registry => registry.addKernel kernel

/-- Checks an argument. -/
def checkArgument (handle : KernelHandle) (index : Nat) (value : Bytes) (host : Host δ) :
    Except HostError Unit := do
  let kernel ← host.registry.kernels.checked handle
  if kernel.arguments.length ≤ index then throw (.argIndex index kernel.arguments.length)
  if value.isEmpty then throw (.argValue index)

/-- Changes a kernel. -/
def changeKernel (handle : KernelHandle) (change : Kernel → Kernel) : HostAction δ Unit :=
  register fun registry => ((), { registry with kernels := registry.kernels.modify handle change })

/-- Sets an argument, in place of the one before. -/
def setArgument (kernel : KernelHandle) (index : Nat) (value : Bytes) : HostAction δ Unit := do
  check (checkArgument kernel index value)
  changeKernel kernel fun entry =>
    { entry with arguments := entry.arguments.set index (some value) }

/-- Asks a kernel. -/
def kernelInfo (kernel : KernelHandle) (query : KernelQuery) : HostAction δ InfoValue :=
  check fun host => do return (← host.registry.kernels.checked kernel).info query

end Host

end ComputeHost
