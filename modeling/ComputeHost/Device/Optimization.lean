/-
**Optimization levels.**

A device applies a level when it translates a module. A level is chosen by its name, some also by
a number.
-/

import ComputeHost.Text.Blank

namespace ComputeHost

/-- How much work a device puts into the modules it loads. -/
inductive OptimizationLevel
  | none
  | debug
  | basic
  | aggressive
  | speculative
  | full
  deriving DecidableEq

namespace OptimizationLevel

/-- The place of the level among all levels, the least work first. -/
def rank : OptimizationLevel → Nat
  | none => 0
  | debug => 1
  | basic => 2
  | aggressive => 3
  | speculative => 4
  | full => 5

/-- Levels compare by the work they stand for. -/
instance : Ord OptimizationLevel where
  compare first second := compare first.rank second.rank

/-- The level that a text chooses, or why it chooses none. -/
def ofText (text : String) : Except String OptimizationLevel :=
  match Text.choice text with
  | "none" | "0" => .ok none
  | "debug" => .ok debug
  | "basic" | "1" => .ok basic
  | "aggressive" | "2" => .ok aggressive
  | "speculative" => .ok speculative
  | "full" | "3" => .ok full
  | other => .error ("unknown optimization level '" ++ other ++ "'")

end OptimizationLevel

end ComputeHost
