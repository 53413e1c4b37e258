import ServiceContract.Number.Binary64
import ServiceContract.Text.Blank

/-!
# Reading decimal numerals

A numeral is a sign, digits with at most one point among them, and an exponent, of which only the
digits are needed; or a sign and one of the words `inf`, `infinity` and `nan` in any case.  White
space around a numeral does not count, and single low lines may stand inside one that has no white
space around it.
-/

namespace ServiceContract.Number

/-- White space around a numeral. -/
def isNumeralSpace (c : CodePoint) : Bool :=
  let n := c.toNat
  (9 ≤ n && n ≤ 13) || n == 32 || n == 0x85 || n == 0xA0 || n == 0x1680 ||
    (0x2000 ≤ n && n ≤ 0x200A) || n == 0x2028 || n == 0x2029 || n == 0x202F || n == 0x205F ||
    n == 0x3000

/-- A sign, and what follows it. -/
def splitSign : Text → Bool × Text
  | .char '-' :: rest => (true, rest)
  | .char '+' :: rest => (false, rest)
  | t => (false, t)

/-- Minus the number, or the number. -/
def signed (negative : Bool) (n : Nat) : Int :=
  if negative then -(n : Int) else n

/-- The value of decimal digits, the most significant first. -/
def digitsValue (digits : Text) : Nat :=
  digits.foldl (fun value digit => 10 * value + (digit.toNat - 48)) 0

/-- The exponent that a text denotes; none stands for zero. -/
def exponentOf? : Text → Option Int
  | [] => some 0
  | mark :: rest =>
    let (negative, digits) := splitSign rest
    if (mark == 'e' || mark == 'E') && !digits.isEmpty && digits.all CodePoint.isDigit then
      some (signed negative (digitsValue digits))
    else none

/-- The double that an unsigned numeral denotes. -/
def unsigned? (negative : Bool) (t : Text) : Option Binary64 :=
  let word := t.toLower
  if word = "inf" ∨ word = "infinity" then some (.infinite negative)
  else if word = "nan" then some .nan
  else
    let whole := t.takeWhile CodePoint.isDigit
    let rest := t.drop whole.length
    let (fraction, rest) := match rest with
      | .char '.' :: more => (more.takeWhile CodePoint.isDigit, more.dropWhile CodePoint.isDigit)
      | more => ([], more)
    if whole.isEmpty && fraction.isEmpty then none
    else (exponentOf? rest).map fun exponent =>
      Binary64.ofDecimal negative (digitsValue (whole ++ fraction)) (exponent - fraction.length)

/-- The double that a numeral without white space denotes. -/
def plain? (t : Text) : Option Binary64 :=
  let (negative, rest) := splitSign t
  unsigned? negative rest

/-- The text without its low lines, if there are any and each stands between two other
characters. -/
def withoutLowLines? (t : Text) : Option Text :=
  if t.contains '_' && t.head? != some (.char '_') && t.getLast? != some (.char '_') &&
      (t.zip t.tail).all fun (a, b) => !(a == '_' && b == '_') then
    some (t.filter (· != .char '_'))
  else none

/-- The double that a text denotes. -/
def ofText? (t : Text) : Option Binary64 :=
  let trimmed := Text.dropTrailing isNumeralSpace (t.dropWhile isNumeralSpace)
  (plain? trimmed).or ((withoutLowLines? t).bind plain?)

example : ofText? " -1 " = ofText? "-1.e0" ∧ ofText? "0x10" = none ∧ ofText? "." = none := by
  decide +kernel

end ServiceContract.Number
