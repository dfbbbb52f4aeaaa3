/-
**Registered modules.**

A module is read once, under a name of its own, and loaded onto a device when it is first needed
there. The table knows on which devices each module is.
-/

import ComputeHost.Host.Objects

namespace ComputeHost

/-- A registered module. -/
structure ModuleEntry where
  module : KernelModule
  /-- The devices it was loaded on, in the order of loading. -/
  loadedOn : List DeviceHandle := []

/-- The registered modules, in the order of registration. -/
structure ModuleTable where
  entries : List ModuleEntry := []

namespace ModuleTable

/-- The entry of a name. -/
def find? (table : ModuleTable) (name : String) : Option ModuleEntry :=
  table.entries.find? fun entry => entry.module.name == name

/-- The module of a name. -/
def module? (table : ModuleTable) (name : String) : Option KernelModule :=
  (table.find? name).map ModuleEntry.module

/-- Reads a text and registers it under a name that is not taken. -/
def register (table : ModuleTable) (name source : String) : Except HostError ModuleTable :=
  if (table.find? name).isSome then .error (.moduleExists name)
  else
    match KernelModule.parse name source with
    | .error cause => .error (.buildFailure name cause.message)
    | .ok module => .ok ⟨table.entries ++ [{ module }]⟩

/-- Notes that a module was loaded on a device. -/
def markLoaded (table : ModuleTable) (name : String) (device : DeviceHandle) : ModuleTable :=
  ⟨table.entries.map fun entry =>
    if entry.module.name = name then { entry with loadedOn := entry.loadedOn ++ [device] }
    else entry⟩

/-- The table without a module. -/
def remove (table : ModuleTable) (name : String) : ModuleTable :=
  ⟨table.entries.filter fun entry => entry.module.name ≠ name⟩

/-- The modules that are loaded on a device. -/
def loadedOn (table : ModuleTable) (device : DeviceHandle) : List KernelModule :=
  (table.entries.filter fun entry => entry.loadedOn.contains device).map ModuleEntry.module

end ModuleTable

end ComputeHost
