import ServiceContract.Primitive
import ServiceContract.Text.Blank

/-!
# Type labels

A type is written as a label: a name, a list `[name]` or a map `map[name]`, with blanks around
the label and inside the brackets.  Reading a label only finds its container and the name in it.
The bare word `map` is an old spelling of `map[string]` and draws a warning.
-/

namespace ServiceContract

/-- What a type holds of the type that it names: one value, a list, or a map from strings. -/
inductive Container where
  | singleton
  | list
  | map
  deriving DecidableEq, Repr

/-- The name of a container. -/
def Container.name : Container → Text
  | singleton => "singleton"
  | list => "list"
  | map => "map"

/-- A label as read: its text without blanks around it, the name in it, and the container. -/
structure Label where
  text : Text
  name : Text
  container : Container
  deriving DecidableEq, Repr

namespace Label

/-- What stands before a closing bracket at the very end. -/
def beforeBracket? (t : Text) : Option Text :=
  if t.getLast? = some (.char ']') then some t.dropLast else none

/-- The name between the brackets of a list. -/
def listName? : Text → Option Text
  | .char '[' :: rest => beforeBracket? rest
  | _ => none

/-- The name between the brackets of a map; it does not run over a line end. -/
def mapName? : Text → Option Text
  | .char 'm' :: .char 'a' :: .char 'p' :: .char '[' :: rest =>
    (beforeBracket? rest).filter fun name => !name.contains '\n'
  | _ => none

/-- The container of a label without blanks around it, and the name in it. -/
def shapeOf (t : Text) : Container × Text :=
  match listName? t with
  | some name => (.list, name.trim)
  | none =>
    if t = "map" then (.map, Primitive.string.name)
    else match mapName? t with
      | some name => (.map, name.trim)
      | none => (.singleton, t)

/-- The label that a text spells. -/
def ofText (text : Text) : Label :=
  let (container, name) := shapeOf text.trim
  ⟨text.trim, name, container⟩

/-- The warning about the bare word `map`. -/
def mapWarning : Text := "type[map] is deprecated. Use map[string]"

/-- The warnings that a label draws. -/
def warnings (label : Label) : List Text :=
  if label.text = "map" then [mapWarning] else []

example : ofText " [ user ] " = ⟨"[ user ]", "user", .list⟩ := by decide

example : ofText "map[a]b]" = ⟨"map[a]b]", "a]b", .map⟩ := by decide

end Label

end ServiceContract
