/-
**The state of a host.**

A host holds its settings, the devices it has not yet listed, the registry and the table of
modules. Collectors and the diagnostic channel belong to the one who uses the host; they are part
of the state because calls write to them.

* `onDevice` runs an operation on a device between selecting and unselecting it.
* `attempt` goes on where an operation fails; what the operation did stays.
-/

import ComputeHost.Host.ModuleTable
import ComputeHost.Host.Registry
import ComputeHost.Settings

namespace ComputeHost

/-- A host for devices of type `δ`. -/
structure Host (δ : Type) where
  settings : Settings
  /-- The devices that the platform will have once it is listed. -/
  pending : List δ
  /-- The level for modules loaded from now on. -/
  optimization : OptimizationLevel := settings.optimization
  registry : Registry δ := {}
  modules : ModuleTable := {}
  /-- The number of the next program that is built. -/
  nextBuild : Nat := 0
  /-- What each collector was told. -/
  recorders : List (CollectorId × Recorder) := []
  /-- Whether a launch is going on. -/
  executing : Bool := false
  /-- The events on the diagnostic channel, in order. -/
  diagnostics : List String := []

/-- A call of a host: it gives a value or an error, and the host after it. -/
abbrev HostAction (δ : Type) := EStateM HostError (Host δ)

namespace Host

variable {δ α : Type}

/-- A host that will list the given devices. -/
def new (settings : Settings) (devices : List δ) : Host δ := { settings, pending := devices }

/-- What only looks at the host. -/
def check (look : Host δ → Except HostError α) : HostAction δ α := fun host =>
  match look host with
  | .ok value => .ok value host
  | .error error => .error error host

/-- Changes the registry and gives what the change gives. -/
def register (change : Registry δ → α × Registry δ) : HostAction δ α := fun host =>
  let (value, registry) := change host.registry
  .ok value { host with registry }

/-- Carries out an action whose failure does not matter. -/
def attempt (action : HostAction δ Unit) : HostAction δ Unit := fun host =>
  match action host with
  | .ok () host => .ok () host
  | .error _ host => .ok () host

/-- The host with the device behind a handle replaced. -/
def setBackend (host : Host δ) (handle : DeviceHandle) (backend : δ) : Host δ :=
  { host with
    registry :=
      { host.registry with
        devices := host.registry.devices.modify handle fun device => { device with backend } } }

/-- An operation on a device, selected for it. -/
def onDevice [DeviceDriver δ] (handle : DeviceHandle) (lift : DeviceError → HostError)
    (action : DeviceAction δ α) : HostAction δ α := fun host =>
  match host.registry.devices.checked handle with
  | .error error => .error error host
  | .ok device =>
    match DeviceDriver.selected action device.backend with
    | .ok value backend => .ok value (host.setBackend handle backend)
    | .error cause backend => .error (lift cause) (host.setBackend handle backend)

/-! ### Collectors -/

/-- What a collector was told so far. -/
def recorder (host : Host δ) (collector : CollectorId) : Recorder :=
  (host.recorders.lookup collector).getD {}

/-- Tells a collector one thing. -/
def tell (host : Host δ) (collector : CollectorId) (signal : Signal) : Host δ :=
  let updated := (host.recorder collector).observe host.executing signal
  { host with
    recorders := (collector, updated) :: host.recorders.filter fun entry => entry.1 ≠ collector }

/-- Tells collectors several things in order. -/
def tellAll (host : Host δ) (signals : List (CollectorId × Signal)) : Host δ :=
  signals.foldl (fun host (collector, signal) => host.tell collector signal) host

/-! ### Devices behind the host -/

/-- Whether the platform and its devices have been listed. -/
def isEnumerated (host : Host δ) : Bool := !host.registry.platforms.isEmpty

/-- The devices, in the order they were given. -/
def backends (host : Host δ) : List δ :=
  if host.isEnumerated then host.registry.devices.objects.map Device.backend else host.pending

/-- Changes the device at a position of `backends`; whoever gave the devices to the host may still
reach them. -/
def adjust (host : Host δ) (position : Nat) (change : δ → δ) : Host δ :=
  if host.isEnumerated then
    match host.registry.devices.handles[position]? with
    | some handle =>
      { host with
        registry :=
          { host.registry with
            devices := host.registry.devices.modify handle fun device =>
              { device with backend := change device.backend } } }
    | none => host
  else { host with pending := host.pending.modify position change }

/-- The devices after the host is gone: those that it had listed are released. -/
def close [DeviceDriver δ] (host : Host δ) : List δ :=
  if host.isEnumerated then host.backends.map DeviceDriver.release else host.pending

end Host

end ComputeHost
