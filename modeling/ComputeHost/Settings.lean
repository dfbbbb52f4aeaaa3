/-
**Settings of a host.**

A host has a name, a vendor, devices, an optimization level, a stamp for its diagnostics and the
memory of the machine it runs on. Three variables of the environment override the defaults; a value
that makes no sense is passed over.
-/

import ComputeHost.Device.Optimization
import ComputeHost.Diagnostics

namespace ComputeHost

/-- A kind of device that a host can make itself. -/
inductive DeviceKind
  /-- An emulated accelerator. -/
  | emulated
  /-- A device of the host-processor class. -/
  | host
  deriving DecidableEq

namespace DeviceKind

/-- The kind that a text chooses, or why it chooses none. -/
def ofText (text : String) : Except String DeviceKind :=
  match Text.choice text with
  | "emulated" | "emulator" | "gpu" => .ok emulated
  | "host" | "cpu" => .ok host
  | other => .error ("unknown device kind '" ++ other ++ "'")

/-- The name of the kind. -/
def text : DeviceKind → String
  | emulated => "emulated"
  | host => "host"

end DeviceKind

/-- The values of environment variables; a variable that is not set has none. -/
abbrev Environment := String → Option String

/-- Settings of a host. -/
structure Settings where
  platformName : String := "Corvid"
  platformVendor : String := "Corvid Project"
  /-- The devices of the platform, in order. -/
  devices : List DeviceKind := [.emulated, .host]
  /-- Applied to every module when it is loaded. -/
  optimization : OptimizationLevel := .none
  /-- Stands in front of every line of diagnostics. -/
  stamp : String := Diagnostics.defaultStamp
  /-- The allocator of the machine gives only blocks that are smaller than this. -/
  hostMemory : Nat := 1 <<< 35
  deriving DecidableEq

namespace Settings

/-- The kinds in a list with commas; blank pieces do not count, and one unknown kind spoils the
list. -/
def deviceList? (text : String) : Option (List DeviceKind) :=
  let pieces := (text.splitOn ",").filter fun piece => !Text.isAllBlank piece
  pieces.mapM fun piece => (DeviceKind.ofText piece).toOption

/-- The devices that a variable chooses; a list that is empty or has an unknown kind chooses the
`default`. -/
def chosenDevices (default : List DeviceKind) (value : Option String) : List DeviceKind :=
  match value.bind deviceList? with
  | none | some [] => default
  | some devices => devices

/-- The settings that the environment chooses. -/
def ofEnvironment (environment : Environment) : Settings :=
  let settings : Settings := {}
  { settings with
    devices := chosenDevices settings.devices (environment "CORVID_DEVICES")
    optimization :=
      ((environment "CORVID_OPTIMIZATION").bind fun value =>
        (OptimizationLevel.ofText value).toOption).getD settings.optimization
    stamp := (environment "CORVID_DIAGNOSTIC_PREFIX").getD settings.stamp }

end Settings

end ComputeHost
