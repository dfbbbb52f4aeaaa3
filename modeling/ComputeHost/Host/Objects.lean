/-
**The objects of a host.**

Objects refer to each other by handles. A context ties devices to the programs, queues and buffers
made in it; a program owns kernels; a buffer has one allocation on each device it is on.
-/

import ComputeHost.Device.Driver
import ComputeHost.Handle
import ComputeHost.Host.Flags
import ComputeHost.Host.Geometry

namespace ComputeHost

abbrev PlatformHandle := Handle ObjectKind.platform
abbrev DeviceHandle := Handle ObjectKind.device
abbrev ContextHandle := Handle ObjectKind.context
abbrev ProgramHandle := Handle ObjectKind.program
abbrev KernelHandle := Handle ObjectKind.kernel
abbrev BufferHandle := Handle ObjectKind.buffer
abbrev QueueHandle := Handle ObjectKind.queue

/-- A group of devices. A host has one. -/
structure Platform where
  name : String
  vendor : String
  devices : List DeviceHandle

/-- A device of a platform, with the device `δ` behind it. -/
structure Device (δ : Type) where
  platform : PlatformHandle
  backend : δ

/-- The name of the device. -/
def Device.name {δ : Type} [DeviceDriver δ] (device : Device δ) : String :=
  (DeviceDriver.properties device.backend).name

/-- Whether a collector stays after the launch it watches. -/
inductive Persistence
  /-- It watches every launch until the collectors are cleared. -/
  | persistent
  /-- It watches the next launch only. -/
  | oneShot
  deriving DecidableEq

/-- Devices that share programs, queues and buffers. -/
structure Context where
  devices : List DeviceHandle
  programs : List ProgramHandle := []
  queues : List QueueHandle := []
  buffers : List BufferHandle := []
  /-- Collectors of every launch, in the order they were added. -/
  persistent : List CollectorId := []
  /-- Collectors of the next launch, in the order they were added. -/
  oneShot : List CollectorId := []

namespace Context

/-- The context with one more collector. -/
def addCollector (context : Context) (collector : CollectorId) : Persistence → Context
  | .persistent => { context with persistent := context.persistent ++ [collector] }
  | .oneShot => { context with oneShot := context.oneShot ++ [collector] }

/-- The context without collectors. -/
def clearCollectors (context : Context) : Context :=
  { context with persistent := [], oneShot := [] }

/-- The collectors of the next launch. -/
def launchCollectors (context : Context) : List CollectorId := context.persistent ++ context.oneShot

end Context

/-- A program built for a device, as the module of the given name. -/
structure Build where
  device : DeviceHandle
  module : String
  /-- What was built, as it is handed out. -/
  binary : Bytes
  deriving DecidableEq

/-- The build of a text for a device; its binary is the text as it is. -/
def Build.ofText (name source : String) (device : DeviceHandle) : Build :=
  { device, module := name, binary := Bytes.ofText source }

@[simp] theorem Build.module_ofText (name source : String) (device : DeviceHandle) :
    (Build.ofText name source device).module = name := rfl

/-- A program: its text and, once it is built, its builds. -/
structure Program where
  context : ContextHandle
  source : String
  builds : Option (List Build) := none
  kernels : List KernelHandle := []

namespace Program

/-- The build for a device. -/
def buildFor? (program : Program) (device : DeviceHandle) : Option Build :=
  (program.builds.getD []).find? fun build => build.device == device

/-- The binary of the build for a device; without one it is empty. -/
def binaryFor (program : Program) (device : DeviceHandle) : Bytes :=
  ((program.buildFor? device).map Build.binary).getD []

end Program

/-- A kernel with its arguments. -/
structure Kernel where
  program : ProgramHandle
  context : ContextHandle
  name : String
  /-- The bytes of each argument that was set. -/
  arguments : List (Option Bytes)
  /-- The geometry that was last accepted for a launch. -/
  geometry : Option Geometry := none

/-- How many arguments are set. -/
def Kernel.boundCount (kernel : Kernel) : Nat := kernel.arguments.countP Option.isSome

/-- A buffer with an allocation on each of its devices. -/
structure Buffer where
  context : ContextHandle
  size : Nat
  flags : BufferFlags
  places : List (DeviceHandle × Address)

/-- The address of the buffer on a device. -/
def Buffer.addressOn? (buffer : Buffer) (device : DeviceHandle) : Option Address :=
  buffer.places.lookup device

/-- A queue of commands for one device. -/
structure Queue where
  context : ContextHandle
  device : DeviceHandle
  properties : QueueProperties
  stream : StreamId

end ComputeHost
