import ServiceContract.Number.Shortest

/-!
# Writing doubles

A double is written with the digits of its shortest decimal, positionally when its decimal
exponent lies in the range of a `Layout` and with an exponent otherwise.  A positional numeral
always has a point and a digit after it.
-/

namespace ServiceContract.Number

/-- The choices that a format makes. -/
structure Layout where
  /-- The least decimal exponent that is written positionally. -/
  lowest : Int
  /-- The greatest decimal exponent that is written positionally. -/
  highest : Int
  /-- The least number of digits of an exponent. -/
  exponentDigits : Nat

/-- The layout of numbers in texts: positional from 0.0001 to below 10^16, exponents with a sign
and at least two digits. -/
def Layout.plain : Layout := ⟨-4, 15, 2⟩

/-- The layout of numbers in printed documents: positional from 0.00001 to below 10^16, exponents
with a sign and no more digits than needed. -/
def Layout.compact : Layout := ⟨-5, 15, 1⟩

/-- The decimal digits of a number. -/
def decimalDigits (n : Nat) : List Char := Nat.toDigits 10 n

/-- Zeros before the digits up to the given width. -/
def padLeft (width : Nat) (digits : List Char) : List Char :=
  List.replicate (width - digits.length) '0' ++ digits

/-- Trailing zeros of the digits moved into the exponent, at most `fuel` of them. -/
def Decimal.normalize : (fuel : Nat) → Decimal → Decimal
  | 0, d => d
  | fuel + 1, d =>
    if d.digits % 10 = 0 then Decimal.normalize fuel ⟨d.digits / 10, d.exponent + 1⟩ else d

/-- A positive decimal in a layout. -/
def Layout.writeDecimal (layout : Layout) (d : Decimal) : List Char :=
  let d := d.normalize 17
  let digits := decimalDigits d.digits
  let order : Int := d.exponent + digits.length - 1
  if layout.lowest ≤ order ∧ order ≤ layout.highest then
    if 0 ≤ d.exponent then digits ++ List.replicate d.exponent.toNat '0' ++ ['.', '0']
    else if 0 ≤ order then
      digits.take (order.toNat + 1) ++ '.' :: digits.drop (order.toNat + 1)
    else '0' :: '.' :: List.replicate (-order - 1).toNat '0' ++ digits
  else
    digits.take 1 ++ (if digits.length = 1 then [] else '.' :: digits.drop 1) ++
      'e' :: (if order < 0 then '-' else '+') ::
      padLeft layout.exponentDigits (decimalDigits order.natAbs)

/-- A double in a layout. -/
def Layout.write (layout : Layout) : Binary64 → String
  | .nan => "nan"
  | .infinite negative => if negative then "-inf" else "inf"
  | .finite negative mantissa exponent =>
    let sign := if negative then ['-'] else []
    let body :=
      if mantissa = 0 then ['0', '.', '0'] else layout.writeDecimal (shortest mantissa exponent)
    String.ofList (sign ++ body)

/-- The text of a double. -/
def Binary64.text (x : Binary64) : String := Layout.plain.write x

example : (Binary64.ofDecimal true 225 (-2)).text = "-2.25" := by decide +kernel

example : (Binary64.ofDecimal false 1 16).text = "1e+16" ∧
    (Binary64.ofDecimal false 1 (-5)).text = "1e-05" := by decide +kernel

example : Layout.compact.write (Binary64.ofDecimal false 1 16) = "1e+16" ∧
    Layout.compact.write (Binary64.ofDecimal false 1 (-5)) = "0.00001" := by decide +kernel

end ServiceContract.Number
