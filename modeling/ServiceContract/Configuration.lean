import ServiceContract.Text.Digit

/-!
# Configurations

A configuration names the organization that a service belongs to and the version of the service.
The namespace of a service follows from its key: hyphens become low lines, and the major version
stands at the end.
-/

namespace ServiceContract

/-- The organization of a service and its version. -/
structure Configuration where
  orgKey : Text := "example"
  orgNamespace : Text := "com.example"
  version : Text := "0.0.1-dev"
  deriving DecidableEq, Repr

namespace Configuration

/-- The part of the version before the first point if it is made of digits, and `0` otherwise. -/
def majorVersion (c : Configuration) : Text :=
  let head := c.version.takeWhile (· != .char '.')
  if !head.isEmpty && head.all CodePoint.isDigitLike then head else "0"

/-- The namespace of the service with the given key. -/
def applicationNamespace (c : Configuration) (key : Text) : Text :=
  c.orgNamespace ++ "." ++ Text.replace '-' '_' key ++ ".v" ++ c.majorVersion

example : ({ version := "2.1" } : Configuration).applicationNamespace "pet-store" =
    "com.example.pet_store.v2" := by decide

end Configuration

end ServiceContract
