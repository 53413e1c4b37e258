import ServiceContract.Json.Value
import ServiceContract.Text.Quoted

/-!
# Values on one line

`literal` writes a value inside a list or a mapping: `None`, `True` and `False`, numbers, quoted
strings, lists in square brackets and mappings in braces.  `Value.asDefault` is the text that
stands for the value given as a default or an example.
-/

namespace ServiceContract.Json

mutual

/-- A value as an item of a list or a mapping. -/
def Value.literal : Value → Text
  | .null => "None"
  | .bool b => if b then "True" else "False"
  | .int n => toString n
  | .float x => x.text
  | .string s => s.quoted
  | .array items => "[" ++ Text.join ", " (literals items) ++ "]"
  | .object members => "\x7b" ++ Text.join ", " (memberLiterals members) ++ "\x7d"

/-- Each item of a list. -/
def literals : List Value → List Text
  | [] => []
  | v :: rest => v.literal :: literals rest

/-- Each member of a mapping. -/
def memberLiterals : List (Text × Value) → List Text
  | [] => []
  | (key, v) :: rest => (key.quoted ++ ": " ++ v.literal) :: memberLiterals rest

end

/-- The text of a value given as a default: nothing for null, `true` or `false` for a boolean, a
string itself, and the literal of any other value. -/
def Value.asDefault : Value → Option Text
  | .null => none
  | .bool b => some (if b then "true" else "false")
  | .string s => some s
  | v => some v.literal

example : (Value.array [.int 1, .null, .bool true, .string "a"]).asDefault =
    some "[1, None, True, 'a']" := by decide

example : (Value.object [("k", .int (-1))]).asDefault = some "\x7b'k': -1\x7d" := by decide

end ServiceContract.Json
