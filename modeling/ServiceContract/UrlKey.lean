import ServiceContract.Text.Blank

/-!
# Url keys

A url key is made of the words of a name in lower case, joined by hyphens.  `words` are the runs
of ASCII letters and digits, cut where a capital follows a small letter or a digit.  `plural` is
the English plural that default paths are named by.
-/

namespace ServiceContract.UrlKey

/-- A new word starts between a small letter or a digit and a capital. -/
def startsWord (c d : CodePoint) : Bool :=
  (c.isLower || c.isDigit) && d.isUpper

/-- Whether `c` and the character after it belong to one word. -/
def joins (c : CodePoint) : Text → Bool
  | [] => false
  | d :: _ => d.isAlphanum && !startsWord c d

/-- The words of a name. -/
def words : Text → List Text
  | [] => []
  | c :: rest =>
    if c.isAlphanum then
      match words rest with
      | word :: others => if joins c rest then (c :: word) :: others else [c] :: word :: others
      | [] => [[c]]
    else words rest

/-- The url key of a name. -/
def generate (name : Text) : Text :=
  Text.join "-" ((words name).map Text.toLower)

/-- The plural of a name: `y` after a consonant becomes `ies`, a hissing sound takes `es`, and
anything else `s`. -/
def plural (name : Text) : Text :=
  match name.reverse with
  | .char 'y' :: before :: start =>
    if ("aeiou" : Text).contains before then name ++ "s" else (before :: start).reverse ++ "ies"
  | .char 's' :: _ | .char 'x' :: _ | .char 'z' :: _ => name ++ "es"
  | .char 'h' :: .char 'c' :: _ | .char 'h' :: .char 's' :: _ => name ++ "es"
  | _ => name ++ "s"

example : words "myHTTPServer_v2" = (["my", "HTTPServer", "v2"] : List Text) := by decide

example : generate " Pet Store " = "pet-store" := by decide

example : plural "category" = "categories" ∧ plural "box" = "boxes" ∧ plural "y" = "ys" := by decide

end ServiceContract.UrlKey
