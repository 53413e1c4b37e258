import ServiceContract.Text.Blank

/-!
# Checking the address of an import

An address is usable when it starts with one of the known schemes, does not end with a slash and
holds no blank, blanks around it and the case of its letters apart.
-/

namespace ServiceContract.Uri

/-- What makes an address unusable. -/
inductive Problem where
  | empty
  | unknownScheme
  | endsWithSlash
  | holdsBlank
  deriving DecidableEq, Repr

/-- The wording of a problem of the address `uri`. -/
def Problem.message (uri : Text) : Problem → Text
  | .empty => "URI cannot be empty"
  | .unknownScheme => "URI[" ++ uri ++ "] must start with http://, https://, or file://"
  | .endsWithSlash => "URI[" ++ uri ++ "] cannot end with a '/'"
  | .holdsBlank => "URI[" ++ uri ++ "] cannot contain whitespace"

/-- What an address may start with. -/
def schemes : List Text := ["http://", "https://", "file://"]

/-- The first problem of an address. -/
def problem? (uri : Text) : Option Problem :=
  let address := uri.trim
  if address.isEmpty then some .empty
  else if !schemes.any fun scheme => scheme.isPrefixOf address.toLower then some .unknownScheme
  else if address.getLast? = some (.char '/') then some .endsWithSlash
  else if address.any CodePoint.isBlank then some .holdsBlank
  else none

/-- The messages about an address. -/
def problems (uri : Text) : List Text :=
  ((problem? uri).map (Problem.message uri)).toList

example : problem? "\u00a0FILE:///a " = none := by decide

example : problem? "http://a\u3000b" = some .holdsBlank := by decide

end ServiceContract.Uri
