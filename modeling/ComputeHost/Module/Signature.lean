/-
**What a module declares.**

A kernel has a name and typed parameters; a global variable has a name, a size and perhaps initial
bytes. The size and the alignment of a parameter follow from its type.
-/

import ComputeHost.Device.Address

namespace ComputeHost

/-- A scalar type. -/
inductive ScalarType
  | u8
  | u16
  | u32
  | u64
  | i8
  | i16
  | i32
  | i64
  | f32
  | f64
  deriving DecidableEq

namespace ScalarType

/-- All scalar types. -/
def all : List ScalarType := [u8, u16, u32, u64, i8, i16, i32, i64, f32, f64]

/-- The bytes that a value takes. -/
def size : ScalarType → Nat
  | u8 | i8 => 1
  | u16 | i16 => 2
  | u32 | i32 | f32 => 4
  | u64 | i64 | f64 => 8

/-- The name in a module text. -/
def name : ScalarType → String
  | u8 => "u8"
  | u16 => "u16"
  | u32 => "u32"
  | u64 => "u64"
  | i8 => "i8"
  | i16 => "i16"
  | i32 => "i32"
  | i64 => "i64"
  | f32 => "f32"
  | f64 => "f64"

/-- The scalar type of a name. -/
def ofName? (name : String) : Option ScalarType := all.find? fun scalar => scalar.name == name

theorem ofName?_name (scalar : ScalarType) : ofName? scalar.name = some scalar := by
  cases scalar <;> decide

end ScalarType

/-- The type of a parameter. -/
inductive ParameterType
  | scalar (type : ScalarType)
  /-- The address of an allocation. -/
  | devicePtr
  /-- A compound value passed as it is. -/
  | bytes (size alignment : Nat)
  deriving DecidableEq

namespace ParameterType

/-- The bytes that an argument takes. -/
def size : ParameterType → Nat
  | scalar type => type.size
  | devicePtr => Address.width
  | bytes size _ => size

/-- What the offset of an argument is a multiple of. -/
def alignment : ParameterType → Nat
  | scalar type => type.size
  | devicePtr => Address.width
  | bytes _ alignment => alignment

end ParameterType

/-- A parameter of a kernel. -/
structure Parameter where
  name : String
  type : ParameterType
  deriving DecidableEq

/-- The bytes that an argument takes. -/
def Parameter.size (parameter : Parameter) : Nat := parameter.type.size

/-- What the offset of an argument is a multiple of. -/
def Parameter.alignment (parameter : Parameter) : Nat := parameter.type.alignment

/-- A kernel as it is declared. -/
structure KernelSignature where
  name : String
  parameters : List Parameter
  deriving DecidableEq

/-- A global variable as it is declared. -/
structure GlobalVariable where
  name : String
  size : Nat
  /-- The first bytes; the rest, or all where nothing is given, is zero. -/
  initial : Option Bytes
  deriving DecidableEq

end ComputeHost
