/-
**Launches.**

A launch request names a kernel, its geometry, its parameter block and the collectors that watch
it. The device answers with a report: what it told the collectors, in order, and the result. A
launch record is what the device keeps of a launch that ran.
-/

import ComputeHost.Device.Block
import ComputeHost.Device.Error
import ComputeHost.Device.Trace
import ComputeHost.Text.Quoted

namespace ComputeHost

/-- Names a collector of the host. -/
structure CollectorId where
  value : Nat
  deriving DecidableEq

/-- All that a device needs to run a kernel once. -/
structure LaunchRequest where
  module : String
  kernel : String
  stream : StreamId
  workGroups : Vector UInt32 3
  localSize : Vector UInt32 3
  parameters : Block
  collectors : List CollectorId
  deriving DecidableEq

/-- A launch as the device keeps it. -/
structure LaunchRecord where
  module : String
  kernel : String
  stream : StreamId
  workGroups : Vector UInt32 3
  localSize : Vector UInt32 3
  parameters : Block
  /-- How many collectors watched. -/
  collectors : Nat
  deriving DecidableEq

/-- The outcome of a launch on a device. -/
structure LaunchReport where
  /-- What the collectors were told, in order. -/
  signals : List (CollectorId × Signal)
  result : Except DeviceError Unit

/-- Three counts between square brackets. -/
def extentText (extent : Vector UInt32 3) : String :=
  "[" ++ ", ".intercalate (extent.toList.map fun count => toString count.toNat) ++ "]"

namespace LaunchRequest

/-- The request as a device keeps it. -/
def record (request : LaunchRequest) : LaunchRecord :=
  { request with collectors := request.collectors.length }

/-- The request as the collectors of a device are told of it. -/
def summary (request : LaunchRequest) (device : String) : LaunchSummary :=
  { request with device }

/-- The request with its block and its collectors as numbers. -/
def text (request : LaunchRequest) : String :=
  "LaunchDescriptor \x7b module: " ++ Text.quoted request.module ++
    ", kernel: " ++ Text.quoted request.kernel ++
    ", stream: StreamId(" ++ toString request.stream.value ++ ")" ++
    ", work_groups: " ++ extentText request.workGroups ++
    ", local_size: " ++ extentText request.localSize ++
    ", parameter_bytes: " ++ toString request.parameters.size ++
    ", collectors: " ++ toString request.collectors.length ++ " \x7d"

end LaunchRequest

end ComputeHost
