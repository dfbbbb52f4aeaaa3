/-
**Settings of the log.**

A profile fixes the form of the log; variables of the environment choose the profile and override
its directives and its format. Directives say which events are kept.
-/

import ComputeHost.Settings

namespace ComputeHost

/-- The form of log output. -/
inductive LogFormat
  | compact
  | pretty
  | json
  deriving DecidableEq

/-- The format of a name. -/
def LogFormat.ofText? (text : String) : Option LogFormat :=
  match Text.choice text with
  | "compact" => some compact
  | "pretty" => some pretty
  | "json" => some json
  | _ => none

/-- Settings of the log. -/
structure LogSettings where
  directives : Option String := none
  /-- Used where no directives are given. -/
  defaultDirective : String := "info"
  /-- Whether events name where they come from. -/
  includeTargets : Bool := true
  /-- Whether the output is coloured. -/
  ansi : Bool
  format : LogFormat
  deriving DecidableEq

namespace LogSettings

/-- Coloured output for reading. -/
def forLocal : LogSettings := { ansi := true, format := .pretty }

/-- Plain output for other programs. -/
def forContinuousIntegration : LogSettings := { ansi := false, format := .json }

/-- The settings with another format. JSON is never coloured. -/
def withFormat (settings : LogSettings) (format : LogFormat) : LogSettings :=
  { settings with format, ansi := settings.ansi && format ≠ .json }

/-- The settings of a profile; what is not known counts as local. -/
def ofProfile (profile : Option String) : LogSettings :=
  if profile.map Text.lower = some "ci" then forContinuousIntegration else forLocal

/-- The settings that the environment chooses. -/
def ofEnvironment (environment : Environment) : LogSettings :=
  let settings := ofProfile (environment "CORVID_TRACING_PROFILE")
  let settings :=
    { settings with
      directives := (environment "CORVID_TRACING_DIRECTIVES").filter fun value =>
        !Text.isAllBlank value }
  match (environment "CORVID_TRACING_FORMAT").bind LogFormat.ofText? with
  | some format => settings.withFormat format
  | none => settings

/-! ### Directives -/

/-- Whether the text names a level of importance. -/
def isLevel (text : String) : Bool :=
  ["off", "error", "warn", "info", "debug", "trace", "0", "1", "2", "3", "4", "5"].contains
    (Text.lower text)

/-- Whether the character may stand in the name of a source of events. -/
def isTargetChar (c : Char) : Bool := c.isAlphanum || c == '_' || c == ':' || c == '-'

/-- Whether the text names a source of events. -/
def isTarget (text : String) : Bool := !text.isEmpty && text.toList.all isTargetChar

/-- Whether one directive is well formed: a level, a source, or a source with its level. -/
def isDirective (directive : String) : Bool :=
  match directive.splitOn "=" with
  | [single] => isLevel single || isTarget single
  | [target, level] => isTarget target && isLevel level
  | _ => false

/-- Whether the filter of the settings is well formed. -/
def isAccepted (settings : LogSettings) : Bool :=
  settings.directives.all fun directives => (directives.splitOn ",").all isDirective

end LogSettings

end ComputeHost
