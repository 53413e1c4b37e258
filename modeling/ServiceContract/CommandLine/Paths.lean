import ServiceContract.CommandLine.Request
import ServiceContract.Uri.Split
import ServiceContract.Validation

/-!
# Paths that a run may follow

The files that a run reads are known before it: the configuration and the document are named on
the command line, and the documents that are read for imports are named in the document.
-/

namespace ServiceContract.CommandLine

/-- The paths on a command line. -/
def givenPaths (words : List Text) : List Text :=
  match readCall words with
  | .ok ⟨_, .validate, rest⟩ =>
    match validateGrammar.split rest with
    | .ok split => split.values .config ++ split.arguments
    | .error _ => []
  | _ => []

/-- The path that an import has if its address is one of a file. -/
def importPath? (i : Draft.Import) : Option Text :=
  match i.uri.map Uri.split with
  | some (.ok parts) => if parts.scheme = "file" then some (Uri.unescape parts.path) else none
  | _ => none

/-- The paths that the imports of a document have. -/
def importPaths (text : Text) : List Text :=
  match (readDocument text).toOption.map Draft.ofJson with
  | some (.ok draft) => draft.imports.filterMap importPath?
  | _ => []

end ServiceContract.CommandLine
