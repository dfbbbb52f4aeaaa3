/-
**Reading JSON values as data.**

A record is read from an object, by the names of its fields, or from an array, by their order.
The members of an object that are not fields are of no interest, but every key has to be text, and
no field may be given twice.
-/

import ComputeHost.Json.Reading

namespace ComputeHost.Json

/-- The text of a string. -/
def text? : Json → Option String
  | .text value => value
  | _ => none

/-- A natural number below `limit`, written without sign, point and exponent. -/
def natural? (limit : Nat) : Json → Option Nat
  | .number numeral => numeral.natural?.filter fun value => value < limit
  | _ => none

/-- The items of an array, each read by `read`. -/
def list? {α : Type} (read : Json → Option α) : Json → Option (List α)
  | .array items => items.mapM read
  | _ => none

/-- The one value that members give a field, `some none` if there is none, and nothing if there are
several. -/
def field? (members : List (String × Json)) (name : String) : Option (Option Json) :=
  match members.filter fun member => member.1 == name with
  | [] => some none
  | [member] => some (some member.2)
  | _ => none

/-- The members of an object, if all keys are text. -/
def members? (members : List (Option String × Json)) : Option (List (String × Json)) :=
  members.mapM fun (key, value) => key.map fun key => (key, value)

/-- The values of the fields of a record, in the order of the names; `none` stands for a field that
is left out. An array gives the fields in order and may leave out the last ones. -/
def record? (names : List String) : Json → Option (List (Option Json))
  | .object members => do
    let members ← members? members
    names.mapM (field? members)
  | .array items =>
    if items.length ≤ names.length then
      some (items.map some ++ List.replicate (names.length - items.length) none)
    else none
  | _ => none

/-- Whether the value can be held in memory: all strings are text, all numbers are finite as
doubles, and containers are nested at most `depth` deep. -/
def isHeld : (depth : Nat) → Json → Bool
  | _, .null => true
  | _, .bool _ => true
  | _, .number numeral => numeral.isFinite
  | _, .text value => value.isSome
  | 0, _ => false
  | depth + 1, .array items => items.all fun item => isHeld depth item
  | depth + 1, .object members =>
    members.all fun (key, value) => key.isSome && isHeld depth value

end ComputeHost.Json
