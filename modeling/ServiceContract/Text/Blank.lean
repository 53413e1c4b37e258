import ServiceContract.Text.Basic

/-!
# Blank characters

`CodePoint.isBlank` is the class of characters that separate words: Unicode white space together
with the four information separators U+001C to U+001F.  `Text.trim` cuts a text down to what lies
between its first and its last character that is not blank.
-/

namespace ServiceContract

/-- White space of Unicode, and the information separators. -/
def CodePoint.isBlank (c : CodePoint) : Bool :=
  let n := c.toNat
  (9 ≤ n && n ≤ 13) || (28 ≤ n && n ≤ 32) || n == 0x85 || n == 0xA0 || n == 0x1680 ||
    (0x2000 ≤ n && n ≤ 0x200A) || n == 0x2028 || n == 0x2029 || n == 0x202F || n == 0x205F ||
    n == 0x3000

namespace Text

/-- The text without the code points of `p` at the end. -/
def dropTrailing (p : CodePoint → Bool) (t : Text) : Text :=
  (t.reverse.dropWhile p).reverse

/-- The text without the blanks at both ends. -/
def trim (t : Text) : Text :=
  dropTrailing CodePoint.isBlank (t.dropWhile CodePoint.isBlank)

/-- Nothing but blanks. -/
def isEmptyOrBlank (t : Text) : Bool :=
  t.all CodePoint.isBlank

example : trim "\u00a0 put\u3000" = "put" := by decide

example : trim "\u200bput" = "\u200bput" := by decide

end Text

end ServiceContract
