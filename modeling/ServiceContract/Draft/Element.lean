import ServiceContract.Json.Value

/-!
# Elements and their tables

A table gives the keys that an element of a document may have and the kinds of values that each
key takes.  `Table.warnings` lists, in document order, the keys that a table does not have and the
values of a wrong kind; null stands for an absent value and is never wrong.
-/

namespace ServiceContract.Draft

/-- The keys of an element, with the kinds of their values. -/
abbrev Table := List (Text × List Json.Kind)

/-- The article before the name of a kind. -/
def article (kind : Json.Kind) : Text :=
  if kind.name.head?.any ("aeiou" : Text).contains then "an" else "a"

/-- The warning about a key that no table has. -/
def unrecognized (key : Text) : Text := "Unrecognized element[" ++ key ++ "]"

/-- The warning about a value of a wrong kind. -/
def wrongKind (key : Text) (allowed : List Json.Kind) : Text :=
  key ++ " must be " ++ (allowed.head?.map article).getD "a" ++ " " ++
    Text.join " or " (allowed.map Json.Kind.name)

/-- The warning that a member of an element draws. -/
def Table.warning? (table : Table) (key : Text) (value : Json.Value) : Option Text :=
  match table.lookup key with
  | none => some (unrecognized key)
  | some allowed =>
    if value.kind = .null ∨ value.kind ∈ allowed then none else some (wrongKind key allowed)

/-- The warnings that the members of an element draw. -/
def Table.warnings (table : Table) (members : Json.Members) : List Text :=
  members.filterMap fun (key, value) => table.warning? key value

/-- The kinds of a default or an example. -/
def scalarKinds : List Json.Kind := [.string, .number, .boolean]

/-- The elements of a field. -/
def fieldTable : Table :=
  [("name", [.string]), ("type", [.string]), ("required", [.boolean]), ("default", scalarKinds),
   ("description", [.string]), ("example", scalarKinds), ("minimum", [.number]),
   ("maximum", [.number])]

/-- The elements of a parameter. -/
def parameterTable : Table :=
  [("name", [.string]), ("type", [.string]), ("required", [.boolean]), ("default", scalarKinds),
   ("description", [.string]), ("minimum", [.number]), ("maximum", [.number]),
   ("location", [.string])]

/-- The elements of an operation. -/
def operationTable : Table :=
  [("method", [.string]), ("path", [.string]), ("description", [.string]), ("body", [.object]),
   ("parameters", [.array]), ("responses", [.object])]

/-- The elements of a response. -/
def responseTable : Table :=
  [("type", [.string]), ("description", [.string])]

end ServiceContract.Draft
