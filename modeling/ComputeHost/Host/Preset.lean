/-
**A host with devices of its own.**

A host that is given no devices makes those that its settings name, each with the default memory.
-/

import ComputeHost.Device.Simulated
import ComputeHost.Host.Basic

namespace ComputeHost

/-- The properties of a device that a host makes at a position of its platform. -/
def DeviceKind.properties (kind : DeviceKind) (position : Nat) : DeviceProperties :=
  match kind with
  | emulated => .gpu ("Corvid Emulated GPU " ++ toString position) DeviceProperties.defaultMemory
  | host => .cpu ("Corvid Host CPU " ++ toString position) DeviceProperties.defaultMemory

/-- The devices that the settings name. -/
def Settings.simulatedDevices (settings : Settings) : List SimulatedDevice :=
  settings.devices.zipIdx.map fun (kind, position) =>
    .new (position + 1) (kind.properties position)

/-- A host with the devices that its settings name. -/
def Host.preset (settings : Settings) : Host SimulatedDevice :=
  .new settings settings.simulatedDevices

end ComputeHost
