/-
**Performance events.**

Transfers, launches and migrations are recorded with their extent and their duration in
microseconds. A span measures a piece of work and is logged if it took long enough.
-/

import ComputeHost.Device.Trace

namespace ComputeHost.Performance

/-- A recorded event. -/
inductive Event
  | transfer (bytes : UInt64) (direction : String) (duration : UInt64) (bandwidth : Float)
  | launch (kernel : String) (workGroups localSize : Vector UInt32 3) (workItems duration : Nat)
  | migration (relocated globals bytes duration : Nat)

/-- Mebibytes per second; nothing is known of a transfer that took no time. -/
def bandwidth (bytes duration : UInt64) : Float :=
  if 0 < duration then bytes.toFloat / duration.toFloat * 1000000.0 / 1048576.0 else 0.0

/-- The event of a transfer. -/
def Event.ofTransfer (bytes : UInt64) (direction : String) (duration : UInt64) : Event :=
  .transfer bytes direction duration (bandwidth bytes duration)

/-- The event of a launch. -/
def Event.ofLaunch (kernel : String) (workGroups localSize : Vector UInt32 3) (duration : Nat) :
    Event :=
  .launch kernel workGroups localSize (workItems workGroups localSize) duration

/-- The event of a migration. -/
def Event.ofMigration (relocated globals bytes duration : Nat) : Event :=
  .migration relocated globals bytes duration

/-- A measured piece of work. -/
structure Span where
  name : String
  /-- Shorter work is not logged. -/
  threshold : Option Nat

/-- Whether a span of the given duration is logged. -/
def Span.isLogged (span : Span) (duration : Nat) : Bool :=
  span.threshold.all fun threshold => threshold ≤ duration

end ComputeHost.Performance
