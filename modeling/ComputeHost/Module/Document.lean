/-
**Module documents.**

A document lists kernels and global variables in JSON. It is read by the names of its fields, or
from arrays in their order, and written by `KernelSignature.json` and `GlobalVariable.json` in the
compact form. What is read here need not make sense yet: `KernelModule.parse` checks it.

The rules of reading are those that the declarations of the data ask for.

* A document has the fields `kernels` and `globals`; a kernel `name` and `params`; a parameter
  `name` and `type`; a global variable `name`, `size` and `init`. The type of a parameter is told by
  its field `kind`, next to which stand `type` for a scalar, and `size` and `align` for bytes.
* Kinds are named in snake case and scalar types in lower case.
* `kernels`, `globals`, `params`, `init` and the name of a parameter are empty when they are left
  out, and `init` also when it is null; all other fields are required. `init` is left out of what is
  written when there is none.
* Fields of other names are passed over, however deep they are; a field given twice is refused.
* Sizes and alignments are words of 64 bits, initial contents are bytes, and both are written
  without sign, point and exponent.
* A type is taken up as a value before its kind is known, so all of it has to be text, finite
  numbers and containers that are not too deep (`Json.isHeld`).
-/

import ComputeHost.Json.Record
import ComputeHost.Json.Writer
import ComputeHost.Module.Signature

namespace ComputeHost

/-- The declarations of a module, in the order of the document. -/
structure Document where
  kernels : List KernelSignature
  globals : List GlobalVariable
  deriving DecidableEq

namespace Document

/-- Sizes and alignments are words of 64 bits. -/
def sizeLimit : Nat := UInt64.size

/-- How deep containers may be nested in the type of a parameter: a document has fewer than 128
containers around any place that is held, and the type itself is the sixth. -/
def typeDepth : Nat := 122

/-- A scalar type: its name, or an object with the name as its only key and nothing under it. -/
def readScalar? : Json → Option ScalarType
  | .text (some name) => ScalarType.ofName? name
  | .object [(some name, .null)] => ScalarType.ofName? name
  | .object [(some name, .object [])] => ScalarType.ofName? name
  | _ => none

/-- The type of the given kind, from the fields that the kind uses. -/
def readKind? (kind : String) (fields : Json) : Option ParameterType :=
  match kind with
  | "scalar" =>
    match fields.record? ["type"] with
    | some [some type] => (readScalar? type).map .scalar
    | _ => none
  | "device_ptr" => (fields.record? []).map fun _ => .devicePtr
  | "bytes" =>
    match fields.record? ["size", "align"] with
    | some [some size, some alignment] => do
      return .bytes (← size.natural? sizeLimit) (← alignment.natural? sizeLimit)
    | _ => none
  | _ => none

/-- The type of a parameter: an object with its kind, or an array that starts with it. -/
def readType? (type : Json) : Option ParameterType :=
  if type.isHeld typeDepth then
    match type with
    | .array (.text (some kind) :: fields) => readKind? kind (.array fields)
    | .object _ =>
      match type.record? ["kind"] with
      | some [some (.text (some kind))] => readKind? kind type
      | _ => none
    | _ => none
  else none

/-- A field that is the default when it is left out. -/
def readOr {α : Type} (default : α) (read : Json → Option α) : Option Json → Option α
  | none => some default
  | some value => read value

/-- A parameter; its name may be left out. -/
def readParameter? (parameter : Json) : Option Parameter :=
  match parameter.record? ["name", "type"] with
  | some [name, some type] => do
    return ⟨← readOr "" Json.text? name, ← readType? type⟩
  | _ => none

/-- A kernel; its parameters may be left out. -/
def readKernel? (kernel : Json) : Option KernelSignature :=
  match kernel.record? ["name", "params"] with
  | some [some name, parameters] => do
    return ⟨← name.text?, ← readOr [] (Json.list? readParameter?) parameters⟩
  | _ => none

/-- One byte of initial contents. -/
def readByte? (value : Json) : Option UInt8 := (value.natural? 256).map UInt8.ofNat

/-- Initial contents; null stands for none. -/
def readInitial? : Json → Option (Option Bytes)
  | .null => some none
  | value => (Json.list? readByte? value).map some

/-- A global variable; its initial contents may be left out. -/
def readGlobal? (global : Json) : Option GlobalVariable :=
  match global.record? ["name", "size", "init"] with
  | some [some name, some size, initial] => do
    return ⟨← name.text?, ← size.natural? sizeLimit, ← readOr none readInitial? initial⟩
  | _ => none

/-- A document; both lists may be left out. -/
def ofJson? (document : Json) : Option Document :=
  match document.record? ["kernels", "globals"] with
  | some [kernels, globals] => do
    return ⟨← readOr [] (Json.list? readKernel?) kernels,
      ← readOr [] (Json.list? readGlobal?) globals⟩
  | _ => none

/-- Reads a text as a module document: as one JSON value, and that by the rules above. -/
def ofText? (text : String) : Option Document := (Json.ofText? text).bind ofJson?

/-! ### Writing -/

/-- A string as a JSON value. -/
def string (value : String) : Json := .text (some value)

/-- A natural number as a JSON value. -/
def number (value : Nat) : Json := .number (Numeral.ofNat value)

/-- An object with the given members. -/
def object (members : List (String × Json)) : Json :=
  .object (members.map fun (name, value) => (some name, value))

end Document

open Document (string number object)

/-- The type as a JSON value. -/
def ParameterType.toJson : ParameterType → Json
  | .scalar type => object [("kind", string "scalar"), ("type", string type.name)]
  | .devicePtr => object [("kind", string "device_ptr")]
  | .bytes size alignment =>
    object [("kind", string "bytes"), ("size", number size), ("align", number alignment)]

/-- The parameter as a JSON value. -/
def Parameter.toJson (parameter : Parameter) : Json :=
  object [("name", string parameter.name), ("type", parameter.type.toJson)]

/-- The kernel as a JSON value. -/
def KernelSignature.toJson (kernel : KernelSignature) : Json :=
  object [("name", string kernel.name), ("params", .array (kernel.parameters.map Parameter.toJson))]

/-- The global variable as a JSON value; initial contents that are not given are left out. -/
def GlobalVariable.toJson (global : GlobalVariable) : Json :=
  object
    ([("name", string global.name), ("size", number global.size)] ++
      global.initial.toList.map fun bytes =>
        ("init", .array (bytes.map fun byte => number byte.toNat)))

/-- The kernel in compact JSON. -/
def KernelSignature.json (kernel : KernelSignature) : String := kernel.toJson.compact

/-- The global variable in compact JSON. -/
def GlobalVariable.json (global : GlobalVariable) : String := global.toJson.compact

end ComputeHost
