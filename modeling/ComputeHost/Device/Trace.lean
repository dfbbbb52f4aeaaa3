/-
**Traces of launches.**

A device tells the collectors of a launch when it begins, what it measured and how it ended. A
recorder is a collector that keeps all of it, together with whether the host was executing at the
time.
-/

namespace ComputeHost

/-- What a launch is, as its collectors are told. -/
structure LaunchSummary where
  device : String
  module : String
  kernel : String
  workGroups : Vector UInt32 3
  localSize : Vector UInt32 3
  deriving DecidableEq

/-- The product of all group counts and local sizes. -/
def workItems (workGroups localSize : Vector UInt32 3) : Nat :=
  (workGroups.toList ++ localSize.toList).foldl (fun product count => product * count.toNat) 1

/-- How many work items the launch has. -/
def LaunchSummary.workItems (summary : LaunchSummary) : Nat :=
  ComputeHost.workItems summary.workGroups summary.localSize

/-- A measurement that a device hands out with a launch. -/
inductive ProfileRecord
  | instructionCount (instructions : Nat)
  | memoryTraffic (loads stores bytes : Nat)
  | clockCycles (workGroup cycles : Nat)
  | branchDivergence (branches divergent : Nat)
  deriving DecidableEq

/-- The kind of a measurement. -/
inductive ProfileKind
  | instructionCount
  | memoryTraffic
  | clockCycles
  | branchDivergence
  deriving DecidableEq

namespace ProfileRecord

/-- What was measured. -/
def kind : ProfileRecord → ProfileKind
  | instructionCount .. => .instructionCount
  | memoryTraffic .. => .memoryTraffic
  | clockCycles .. => .clockCycles
  | branchDivergence .. => .branchDivergence

/-- A name and named numbers, between braces. -/
def describe (name : String) (fields : List (String × Nat)) : String :=
  name ++ " \x7b " ++
    ", ".intercalate (fields.map fun (field, value) => field ++ ": " ++ toString value) ++ " \x7d"

/-- The measurement with its numbers. -/
def text : ProfileRecord → String
  | instructionCount instructions => describe "InstructionCount" [("instructions", instructions)]
  | memoryTraffic loads stores bytes =>
    describe "MemoryTraffic" [("loads", loads), ("stores", stores), ("bytes", bytes)]
  | clockCycles workGroup cycles =>
    describe "ClockCycles" [("work_group", workGroup), ("cycles", cycles)]
  | branchDivergence branches divergent =>
    describe "BranchDivergence" [("branches", branches), ("divergent", divergent)]

end ProfileRecord

/-- What a collector sees of a launch. -/
inductive TraceEvent
  | launchBegin (summary : LaunchSummary)
  | profile (record : ProfileRecord)
  | launchEnd (kernel : String) (succeeded : Bool)
  deriving DecidableEq

/-- What a device does to a collector: once before the events of a launch, for every event, and
once after them. -/
inductive Signal
  | start (summary : LaunchSummary)
  | event (event : TraceEvent)
  | finish
  deriving DecidableEq

/-- A collector that keeps what it is told. -/
structure Recorder where
  /-- How many launches were started. -/
  launches : Nat := 0
  /-- The events, each with whether the host was executing. -/
  events : List (TraceEvent × Bool) := []
  /-- How many launches were finished. -/
  finishes : Nat := 0
  deriving DecidableEq

namespace Recorder

/-- Takes one signal. -/
def observe (recorder : Recorder) (executing : Bool) : Signal → Recorder
  | .start _ => { recorder with launches := recorder.launches + 1 }
  | .event event => { recorder with events := recorder.events ++ [(event, executing)] }
  | .finish => { recorder with finishes := recorder.finishes + 1 }

/-- Takes signals in order. -/
def observeAll (recorder : Recorder) (executing : Bool) (signals : List Signal) : Recorder :=
  signals.foldl (fun recorder signal => recorder.observe executing signal) recorder

/-- The recorder in numbers. -/
def text (recorder : Recorder) : String :=
  ProfileRecord.describe "RecordingCollector"
    [("events", recorder.events.length), ("launches", recorder.launches)]

end Recorder

end ComputeHost
