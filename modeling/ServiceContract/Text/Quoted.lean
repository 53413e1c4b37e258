import ServiceContract.Text.Hex
import ServiceContract.Text.Printable

/-!
# Quoted text

`quoted` writes a text between quotes on one line.  The quotes are single ones, unless the text
holds a single quote and no double one.  The quote in use, the backslash and every code point that
is not printable are escaped; `escapeCode` writes a code point with as few of two, four or eight
hexadecimal digits as hold it.
-/

namespace ServiceContract.Text

/-- The escape of a code point by its number. -/
def escapeCode (n : Nat) : String :=
  if n < 0x100 then "\\x" ++ hexDigits 2 n
  else if n < 0x10000 then "\\u" ++ hexDigits 4 n
  else "\\U" ++ hexDigits 8 n

/-- One code point between the quotes `quote`. -/
def quotedCode (quote c : CodePoint) : Text :=
  if c == quote || c == '\\' then ['\\', c]
  else if c == '\t' then "\\t"
  else if c == '\n' then "\\n"
  else if c == '\r' then "\\r"
  else if c.isPrintable then [c]
  else escapeCode c.toNat

/-- The quote that a text is written with. -/
def quoteFor (t : Text) : CodePoint :=
  if t.contains '\'' && !t.contains '"' then '"' else '\''

/-- A text between quotes, on one line. -/
def quoted (t : Text) : Text :=
  let quote := quoteFor t
  quote :: t.flatMap (quotedCode quote) ++ [quote]

example : quoted "it's\n" = "\"it's\\n\"" := by decide

example : quoted "a\"'\x07" = "'a\"\\'\\x07'" := by decide

example : quoted [.char 'a', .surrogate 0] = "'a\\ud800'" := by decide +kernel

end ServiceContract.Text
