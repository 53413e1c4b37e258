import ServiceContract.Number.Layout
import ServiceContract.Text.Basic

/-!
# JSON values

The members of an object are kept in document order.  `put` is how a reader builds them: a key
that is met again keeps its place and takes the new value.
-/

namespace ServiceContract.Json

/-- A JSON value.  Numbers written without fraction and exponent are integers. -/
inductive Value where
  | null
  | bool (b : Bool)
  | int (n : Int)
  | float (x : Number.Binary64)
  | string (s : Text)
  | array (items : List Value)
  | object (members : List (Text × Value))
  deriving Inhabited

/-- The members of an object. -/
abbrev Members := List (Text × Value)

/-- The value of a key. -/
def Members.get? (members : Members) (key : Text) : Option Value :=
  members.lookup key

/-- The members with a value for a key: in the place of the key, or at the end. -/
def Members.put : Members → Text → Value → Members
  | [], key, value => [(key, value)]
  | (k, v) :: rest, key, value =>
    if k = key then (key, value) :: rest else (k, v) :: Members.put rest key value

/-- The kinds of JSON values; integers and other numbers are one kind. -/
inductive Kind where
  | null
  | boolean
  | number
  | string
  | array
  | object
  deriving DecidableEq, Repr

/-- The kind of a value. -/
def Value.kind : Value → Kind
  | .null => .null
  | .bool _ => .boolean
  | .int _ => .number
  | .float _ => .number
  | .string _ => .string
  | .array _ => .array
  | .object _ => .object

/-- The name of a kind. -/
def Kind.name : Kind → Text
  | .null => "null"
  | .boolean => "boolean"
  | .number => "number"
  | .string => "string"
  | .array => "array"
  | .object => "object"

/-- The text of a string value. -/
def Value.text? : Value → Option Text
  | .string s => some s
  | _ => none

/-- The members of an object value. -/
def Value.members? : Value → Option Members
  | .object members => some members
  | _ => none

/-- The items of an array value; of any other value, none. -/
def Value.items : Value → List Value
  | .array items => items
  | _ => []

/-- The members of an object value; of any other value, none. -/
def Value.members : Value → Members
  | .object members => members
  | _ => []

end ServiceContract.Json
