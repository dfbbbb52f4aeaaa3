/-
**Launch geometry.**

A caller gives a number of dimensions and lists of sizes; a launch has exactly three. Sizes beyond
the given dimensions are 1, and a launch without local sizes has one group.

* `Geometry.ofRange` checks the dimension, the global sizes, the offset and the local sizes, in
  this order, and within a list from the first dimension on.
-/

import ComputeHost.Host.Error

namespace ComputeHost

/-- The geometry of a launch as the caller gives it. -/
structure LaunchRange where
  dimensions : Nat
  globalOffset : Option (List Nat) := none
  globalSize : Option (List Nat) := none
  localSize : Option (List Nat) := none
  deriving DecidableEq

/-- A range with one global size per dimension and nothing else. -/
def LaunchRange.ofGlobal (sizes : List Nat) : LaunchRange :=
  { dimensions := sizes.length, globalSize := some sizes }

/-- The geometry of a launch in three dimensions. -/
structure Geometry where
  dimensions : Nat
  globalSize : Vector Nat 3
  localSize : Vector Nat 3
  groups : Vector Nat 3
  deriving DecidableEq

namespace Geometry

/-- The most dimensions a launch may have. -/
def maxDimensions : Nat := 3

/-- The largest size in one dimension. -/
def maxSize : Nat := UInt32.size - 1

/-- The first size that is zero or too large, with its dimension. -/
def badSize? (sizes : List Nat) : Option (Nat × Nat) :=
  sizes.zipIdx.find? fun (size, _) => size == 0 || maxSize < size

/-- The first of the dimensions in which no local size is given that divides the global size, with
the two sizes; a missing local size counts as zero. -/
def badLocal? (globals locals : List Nat) : Option (Nat × Nat × Nat) :=
  globals.zipIdx.findSome? fun (whole, dimension) =>
    let part := locals.getD dimension 0
    if part == 0 || whole % part ≠ 0 then some (dimension, part, whole) else none

/-- Three sizes, the missing ones being 1. -/
def pad (sizes : List Nat) : Vector Nat 3 :=
  #v[sizes.getD 0 1, sizes.getD 1 1, sizes.getD 2 1]

/-- The global sizes of the given dimensions. -/
def globals (range : LaunchRange) : Except HostError (List Nat) :=
  match range.globalSize with
  | none => .error (.globalWorkSize "no global work size")
  | some sizes =>
    if sizes.length < range.dimensions then
      .error (.globalWorkSize
        (toString sizes.length ++ " sizes for " ++ toString range.dimensions ++ " dimensions"))
    else
      match badSize? (sizes.take range.dimensions) with
      | some (size, dimension) =>
        .error (.globalWorkSize (toString size ++ " in dimension " ++ toString dimension))
      | none => .ok (sizes.take range.dimensions)

/-- Whether the range starts at zero in each of its dimensions. -/
def startsAtZero (range : LaunchRange) : Bool :=
  ((range.globalOffset.getD []).take range.dimensions).all (· == 0)

/-- The local sizes that go with the global sizes `globals`. -/
def locals (range : LaunchRange) (globals : List Nat) : Except HostError (List Nat) :=
  match range.localSize with
  | none => .ok globals
  | some sizes =>
    match badLocal? globals sizes with
    | some (dimension, part, whole) => .error (.workGroupSize dimension part whole)
    | none => .ok (sizes.take range.dimensions)

/-- The geometry with the given sizes. -/
def ofSizes (dimensions : Nat) (globals locals : List Nat) : Geometry where
  dimensions
  globalSize := pad globals
  localSize := pad locals
  groups := (pad globals).zipWith (· / ·) (pad locals)

/-- The geometry of a range, or the first constraint that the range violates. -/
def ofRange (range : LaunchRange) : Except HostError Geometry :=
  if range.dimensions = 0 || maxDimensions < range.dimensions then
    .error (.workDimension range.dimensions)
  else do
    let globals ← globals range
    if startsAtZero range then
      let locals ← locals range globals
      return ofSizes range.dimensions globals locals
    else throw (.unimplemented "global work offset")

/-- The sizes as words; they fit, since `ofRange` bounds them. -/
def words (sizes : Vector Nat 3) : Vector UInt32 3 := sizes.map UInt32.ofNat

end Geometry

end ComputeHost
