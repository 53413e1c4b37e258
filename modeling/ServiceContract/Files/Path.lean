import ServiceContract.Text.Encoding
import ServiceContract.Text.Pieces

/-!
# Paths of files

The names in a path are separated by slashes.  Empty names and single points do not count, and
the empty path is written as a point.  A path starts at the root if it starts with a slash; two
slashes, but not more, are kept as they are.

A path is looked up by its octets.  It has none if it holds a surrogate that stands for no octet,
and the null octet cannot be part of a path.
-/

namespace ServiceContract.Files

/-- The slashes that a path starts with, as far as they are kept. -/
def rootOf (path : Text) : Text :=
  match (path.takeWhile (· == .char '/')).length with
  | 0 => ""
  | 2 => "//"
  | _ => "/"

/-- The plain spelling of a path. -/
def normalize (path : Text) : Text :=
  let names := (Text.pieces (.char '/') path).filter
    fun name : Text => !(name.isEmpty || name == ".")
  let plain := rootOf path ++ Text.join "/" names
  if plain.isEmpty then "." else plain

/-- Why a path cannot be looked up. -/
inductive PathFault where
  | nullOctet
  | encoding (fault : EncodeFault)
  deriving DecidableEq, Repr

/-- The wording of a fault. -/
def PathFault.message : PathFault → String
  | nullOctet => "embedded null byte"
  | encoding fault => fault.message

/-- The octets of a path. -/
def octetsOf (path : Text) : Except PathFault (List UInt8) :=
  match path.nameOctets with
  | .error fault => .error (.encoding fault)
  | .ok octets => if octets.contains 0 then .error .nullOctet else .ok octets

example : normalize "///a//./b/" = "/a/b" ∧ normalize "//a" = "//a" ∧ normalize "./" = "." := by
  decide

end ServiceContract.Files
