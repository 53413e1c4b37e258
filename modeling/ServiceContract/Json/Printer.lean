import ServiceContract.Json.Value
import ServiceContract.Text.Encoding

/-!
# Printing JSON text

`Value.print` writes a value over several lines: each item and each member stands on a line of its
own, indented by two spaces a level, and only an empty array or object stays on one line.  A
number that is no number or infinite is written as null.  `Value.encodeFault?` finds the first
string that cannot be part of a document because it holds surrogates.
-/

namespace ServiceContract.Json

/-- One code point inside a string. -/
def printCode (c : CodePoint) : Text :=
  match c with
  | .char '"' => "\\\""
  | .char '\\' => "\\\\"
  | .char '\n' => "\\n"
  | .char '\r' => "\\r"
  | .char '\t' => "\\t"
  | .char '\x08' => "\\b"
  | .char '\x0c' => "\\f"
  | c => if c.toNat < 0x20 then "\\u" ++ Text.hexDigits 4 c.toNat else [c]

/-- A string between quotes. -/
def printString (s : Text) : Text :=
  "\"" ++ s.flatMap printCode ++ "\""

/-- A double. -/
def printDouble (x : Number.Binary64) : String :=
  if x.isFinite then Number.Layout.compact.write x else "null"

/-- The start of a line at the given level. -/
def lineStart (level : Nat) : Text := '\n' :: List.replicate (2 * level) ' '

/-- The parts of an array or object at the given level between its brackets. -/
def printParts (opening closing : String) (level : Nat) (parts : List Text) : Text :=
  if parts.isEmpty then opening ++ closing
  else
    opening ++ lineStart (level + 1) ++ Text.join ("," ++ lineStart (level + 1)) parts ++
      lineStart level ++ closing

mutual

/-- A value at the given level. -/
def Value.printAt (level : Nat) : Value → Text
  | .null => "null"
  | .bool b => if b then "true" else "false"
  | .int n => toString n
  | .float x => printDouble x
  | .string s => printString s
  | .array items => printParts "[" "]" level (printItems (level + 1) items)
  | .object members => printParts "\x7b" "\x7d" level (printMembers (level + 1) members)

/-- Each item of an array. -/
def printItems (level : Nat) : List Value → List Text
  | [] => []
  | v :: rest => v.printAt level :: printItems level rest

/-- Each member of an object. -/
def printMembers (level : Nat) : List (Text × Value) → List Text
  | [] => []
  | (key, v) :: rest =>
    (printString key ++ ": " ++ v.printAt level) :: printMembers level rest

end

mutual

/-- The strings in a value in the order in which they are printed, the keys among them. -/
def Value.strings : Value → List Text
  | .null | .bool _ | .int _ | .float _ => []
  | .string s => [s]
  | .array items => stringsOfItems items
  | .object members => stringsOfMembers members

/-- The strings in the items of an array. -/
def stringsOfItems : List Value → List Text
  | [] => []
  | v :: rest => v.strings ++ stringsOfItems rest

/-- The strings in the members of an object. -/
def stringsOfMembers : List (Text × Value) → List Text
  | [] => []
  | (key, v) :: rest => key :: v.strings ++ stringsOfMembers rest

end

/-- The fault of the first string that cannot be part of a document. -/
def Value.encodeFault? (v : Value) : Option EncodeFault := v.strings.findSome? Text.encodeFault?

/-- The text of a value. -/
def Value.print (v : Value) : Text := v.printAt 0

example : (Value.object [("a", .array [.int 1, .array []]), ("b", .null)]).print =
    "\x7b\n  \"a\": [\n    1,\n    []\n  ],\n  \"b\": null\n\x7d" := by decide

example : printString "\"é\x01\n" = "\"\\\"é\\u0001\\n\"" := by decide

end ServiceContract.Json
