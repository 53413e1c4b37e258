/-!
# Texts

A text is a list of code points.  Characters are code points, and so are the surrogates, which
denote a character in pairs and nothing alone.  A document can name a surrogate that stands
alone, so texts have a place for them.

Strings and characters are read as texts and code points wherever these are expected.  The ASCII
classes of code points are those of characters; no surrogate belongs to one.
-/

namespace ServiceContract

/-- A code point: a character, or the surrogate with the given index. -/
inductive CodePoint where
  | char (c : Char)
  | surrogate (index : Fin 0x800)
  deriving DecidableEq, Repr

/-- A text. -/
abbrev Text := List CodePoint

namespace CodePoint

instance : Coe Char CodePoint := ⟨char⟩

/-- The number of a code point. -/
def toNat : CodePoint → Nat
  | char c => c.toNat
  | surrogate index => 0xD800 + index

/-- The code point with a number; a number beyond the last one counts as zero. -/
def ofNat (n : Nat) : CodePoint :=
  if h : 0xD800 ≤ n ∧ n < 0xE000 then surrogate ⟨n - 0xD800, by omega⟩ else char (Char.ofNat n)

/-- Not a character. -/
def isSurrogate : CodePoint → Bool
  | char _ => false
  | surrogate _ => true

/-- A character of a class. -/
def satisfies (p : Char → Bool) : CodePoint → Bool
  | char c => p c
  | surrogate _ => false

/-- An ASCII digit. -/
def isDigit (c : CodePoint) : Bool := c.satisfies Char.isDigit

/-- An ASCII letter. -/
def isAlpha (c : CodePoint) : Bool := c.satisfies Char.isAlpha

/-- An ASCII letter or digit. -/
def isAlphanum (c : CodePoint) : Bool := c.satisfies Char.isAlphanum

/-- A small ASCII letter. -/
def isLower (c : CodePoint) : Bool := c.satisfies Char.isLower

/-- A capital ASCII letter. -/
def isUpper (c : CodePoint) : Bool := c.satisfies Char.isUpper

/-- The small letter of a capital ASCII letter, and any other code point itself. -/
def toLower : CodePoint → CodePoint
  | char c => char c.toLower
  | surrogate index => surrogate index

/-- The capital letter of a small ASCII letter, and any other code point itself. -/
def toUpper : CodePoint → CodePoint
  | char c => char c.toUpper
  | surrogate index => surrogate index

theorem ofNat_toNat_surrogate (index : Fin 0x800) :
    ofNat (surrogate index).toNat = surrogate index := by
  have := index.isLt
  simp [ofNat, toNat]
  omega

end CodePoint

namespace Text

/-- The text of a string. -/
def ofString (s : String) : Text := s.toList.map .char

instance : Coe String Text := ⟨ofString⟩

/-- The text in small letters. -/
def toLower (t : Text) : Text := t.map CodePoint.toLower

/-- The text with one code point for another. -/
def replace (old new : CodePoint) (t : Text) : Text := t.map fun c => if c = old then new else c

/-- Texts in a row with a separator between them. -/
def join (separator : Text) (texts : List Text) : Text := separator.intercalate texts

/-- The text of some lines, each with a line feed at its end. -/
def ofLines (lines : List Text) : Text := lines.flatMap fun line => line ++ ofString "\n"

example : join ", " ["a", "b"] = "a, b" := by decide

example : toLower [.char 'A', .surrogate 3] = [.char 'a', .surrogate 3] := by decide

end Text

end ServiceContract
