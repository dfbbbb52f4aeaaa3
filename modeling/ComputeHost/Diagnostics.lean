/-
**The diagnostic channel.**

A fault is reported line by line. A stamp in front of every line says which host wrote it.
-/

import ComputeHost.Text.Lines

namespace ComputeHost.Diagnostics

/-- The stamp of a host that chooses none. -/
def defaultStamp : String := "==Corvid== "

/-- The message with the stamp in front of every line; a message without lines is the stamp. -/
def stamped (stamp message : String) : String :=
  let text := "\n".intercalate ((Text.lines message).map (stamp ++ ·))
  if text.isEmpty then stamp else text

/-- What a report writes. -/
structure Report where
  /-- The stamped message. -/
  text : String
  /-- The events on the channel, one for every line of the text. -/
  events : List String

/-- Reports a message. -/
def report (stamp message : String) : Report :=
  let text := stamped stamp message
  ⟨text, Text.lines text⟩

end ComputeHost.Diagnostics
