import ServiceContract.Draft.Basic
import ServiceContract.Import
import ServiceContract.Uri.Check

/-!
# The rule for imports

Every import has an address.  An address that is usable is asked for, in document order and as
often as it is given.
-/

namespace ServiceContract.Rule

/-- What is wrong with an import. -/
def aboutImport (i : Draft.Import) : Inquiry Import.Fault (List Text) :=
  match i.uri with
  | none => return ["imports.uri is required"]
  | some uri =>
    if (Uri.problem? uri).isSome then return Uri.problems uri else Import.check uri

/-- What is wrong with some imports in a row. -/
def aboutImports : List Draft.Import → Inquiry Import.Fault (List Text)
  | [] => return []
  | i :: rest => do
    let messages ← aboutImport i
    return messages ++ (← aboutImports rest)

/-- Every import has a usable address, where a description of a service is found. -/
def imports (d : Draft) : Inquiry Import.Fault (List Text) := aboutImports d.imports

end ServiceContract.Rule
