/-
**Platforms and devices.**

The platform is listed when it is first asked for, with the devices that the host was given, and
stays as it is. Devices are found by class.
-/

import ComputeHost.Host.Basic
import ComputeHost.Host.Info

namespace ComputeHost

/-- What can be asked of a platform. -/
inductive PlatformQuery
  | profile
  | version
  | name
  | vendor
  | extensions
  deriving DecidableEq

/-- What can be asked of a device. -/
inductive DeviceQuery
  | type
  | name
  | vendor
  | driverVersion
  | version
  | platform
  | capability
  | maxComputeUnits
  | maxWorkGroupSize
  | maxWorkItemDimensions
  | maxWorkItemSizes
  | globalMemSize
  | addressBits
  | available
  | compilerAvailable
  deriving DecidableEq

/-- The answer of a platform. -/
def Platform.info (platform : Platform) : PlatformQuery → InfoValue
  | .profile => .text "FULL_PROFILE"
  | .version => .text "Corvid 1.2 0.1.0"
  | .name => .text platform.name
  | .vendor => .text platform.vendor
  | .extensions => .text "corvid_trace_collectors corvid_device_migration"

/-- The answer of a device. -/
def Device.info {δ : Type} [DeviceDriver δ] (device : Device δ) (query : DeviceQuery) : InfoValue :=
  let properties := DeviceDriver.properties device.backend
  match query with
  | .type => .deviceMask (.ofClass properties.deviceClass)
  | .name => .text properties.name
  | .vendor => .text properties.vendor
  | .driverVersion => .text properties.driverVersion
  | .version => .text ("Corvid " ++ properties.capability.text)
  | .platform => .platform device.platform
  | .capability => .text properties.capability.text
  | .maxComputeUnits => .uint properties.computeUnits
  | .maxWorkGroupSize => .size properties.maxWorkGroupSize
  | .maxWorkItemDimensions => .uint (UInt32.ofNat Geometry.maxDimensions)
  | .maxWorkItemSizes => .sizes properties.maxWorkItemSizes.toList
  | .globalMemSize => .ulong properties.globalMemory
  | .addressBits => .uint properties.addressBits
  | .available | .compilerAvailable => .bool true

namespace Host

variable {δ : Type}

/-- Adds devices to a platform, one after the other. -/
def addDevices (platform : PlatformHandle) :
    List δ → Arena ObjectKind.device (Device δ) →
      List DeviceHandle × Arena ObjectKind.device (Device δ)
  | [], devices => ([], devices)
  | backend :: rest, devices =>
    let (handle, devices) := devices.insert { platform, backend }
    let (handles, devices) := addDevices platform rest devices
    (handle :: handles, devices)

/-- The host with the platform and its devices listed. -/
def enumerate (host : Host δ) : Host δ :=
  let (platform, platforms) := host.registry.platforms.insert
    { name := host.settings.platformName, vendor := host.settings.platformVendor, devices := [] }
  let (handles, devices) := addDevices platform host.pending host.registry.devices
  { host with
    pending := []
    registry :=
      { host.registry with
        platforms := platforms.modify platform fun entry => { entry with devices := handles }
        devices } }

/-- The platforms; the first call lists them. -/
def platformIds : HostAction δ (List PlatformHandle) := fun host =>
  let host := if host.isEnumerated then host else host.enumerate
  .ok (host.registry.platforms.handles.take 1) host

/-- Asks a platform. -/
def platformInfo (platform : PlatformHandle) (query : PlatformQuery) : HostAction δ InfoValue :=
  check fun host => do return (← host.registry.platforms.checked platform).info query

/-- Asks a device. -/
def deviceInfo [DeviceDriver δ] (device : DeviceHandle) (query : DeviceQuery) :
    HostAction δ InfoValue :=
  check fun host => do return (← host.registry.devices.checked device).info query

/-- Whether the handle names a device of a class that the mask asks for. -/
def isAskedFor [DeviceDriver δ] (host : Host δ) (mask : DeviceMask) (handle : DeviceHandle) :
    Bool :=
  (host.registry.devices.get? handle).any fun device =>
    mask.matchesClass (DeviceDriver.properties device.backend).deviceClass

/-- The devices of a platform that a mask asks for, in the order of the platform; if the mask asks
for the first device, that one comes first in any case. -/
def filterDevices [DeviceDriver δ] (host : Host δ) (devices : List DeviceHandle)
    (mask : DeviceMask) : List DeviceHandle :=
  let found := devices.filter (host.isAskedFor mask)
  match devices with
  | first :: _ => if mask.meets .first && !found.contains first then first :: found else found
  | [] => found

/-- The devices of a platform that a mask asks for. -/
def deviceIds [DeviceDriver δ] (platform : PlatformHandle) (mask : DeviceMask) :
    HostAction δ (List DeviceHandle) :=
  check fun host => do
    let platform ← host.registry.platforms.checked platform
    if !mask.isValid then throw (.invalidDeviceType mask.bits.toNat)
    match host.filterDevices platform.devices mask with
    | [] => throw (.deviceNotFound mask.bits.toNat)
    | found => return found

end Host

end ComputeHost
