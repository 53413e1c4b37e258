import ServiceContract.Text.Basic

/-!
# Primitive types

The types that need no declaration, and which of them can be the type of a path parameter.
-/

namespace ServiceContract

/-- A built-in scalar type. -/
inductive Primitive where
  | boolean
  | dateIso8601
  | dateTimeIso8601
  | decimal
  | double
  | integer
  | long
  | object
  | string
  | unit
  | uuid
  deriving DecidableEq, Repr

namespace Primitive

/-- The name of a primitive type. -/
def name : Primitive → Text
  | boolean => "boolean"
  | dateIso8601 => "date-iso8601"
  | dateTimeIso8601 => "date-time-iso8601"
  | decimal => "decimal"
  | double => "double"
  | integer => "integer"
  | long => "long"
  | object => "object"
  | string => "string"
  | unit => "unit"
  | uuid => "uuid"

/-- All primitive types. -/
def all : List Primitive :=
  [boolean, dateIso8601, dateTimeIso8601, decimal, double, integer, long, object, string, unit,
   uuid]

/-- The types of path parameters, in the order in which messages list them. -/
def validInPath : List Primitive :=
  [boolean, decimal, integer, double, long, string, dateIso8601, dateTimeIso8601, uuid]

/-- The primitive type of a name. -/
def ofName? (name : Text) : Option Primitive :=
  all.find? fun p => p.name == name

/-- Whether a primitive type has the name. -/
def isName (name : Text) : Bool :=
  (ofName? name).isSome

/-- Whether the name is that of a type of path parameters. -/
def isValidInPath (name : Text) : Bool :=
  validInPath.any fun p => p.name == name

theorem mem_all (p : Primitive) : p ∈ all := by
  cases p <;> decide

theorem ofName?_name (p : Primitive) : ofName? p.name = some p := by
  cases p <;> decide

end Primitive

end ServiceContract
