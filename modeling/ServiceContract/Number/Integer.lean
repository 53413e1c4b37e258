import ServiceContract.Number.Numeral
import ServiceContract.Text.Digit
import ServiceContract.Text.Quoted

/-!
# Reading integers

`readInteger` reads a decimal integer: blanks around it, one sign, digits of any script and single
low lines between digits are accepted.  A numeral of more than `digitLimit` digits is refused
before what follows it is looked at.  `isSignedNumeral` is the narrower form without blanks, plus
sign and low lines.
-/

namespace ServiceContract.Number

/-- The greatest number of digits, leading zeros included, that a numeral may have. -/
def digitLimit : Nat := 4300

/-- Why a text is no integer. -/
inductive IntegerFault where
  | malformed (text : Text)
  | tooLong (digits : Nat)
  deriving DecidableEq, Repr

/-- The wording of a fault; of the text at fault it shows no more than 200 characters. -/
def IntegerFault.message : IntegerFault → Text
  | .malformed text => "invalid literal for int() with base 10: " ++ text.quoted.take 200
  | .tooLong digits =>
    "Exceeds the limit (4300 digits) for integer string conversion: value has " ++
      toString digits ++
      " digits; use sys.set_int_max_str_digits() to increase the limit"

/-- The value of a list of digits, the most significant first. -/
def valueOfDigits (digits : List Nat) : Nat :=
  digits.foldl (fun value digit => 10 * value + digit) 0

/-- Blanks that may stand around an integer; of the control characters only those from the
tabulator to the carriage return. -/
def isIntegerBlank (c : CodePoint) : Bool :=
  c.isBlank && !(28 ≤ c.toNat && c.toNat ≤ 31)

/-- Starts with a digit, ends with one, and has no two low lines in a row. -/
def separatorsAreSingle (numeral : Text) : Bool :=
  numeral.head? != some (.char '_') && numeral.getLast? != some (.char '_') &&
    (numeral.zip numeral.tail).all fun (c, d) => !(c == '_' && d == '_')

/-- The integer that a text denotes. -/
def readInteger (text : Text) : Except IntegerFault Int :=
  let (negative, rest) := splitSign (text.dropWhile isIntegerBlank)
  let inNumeral := fun c : CodePoint => c.isDecimal || c == '_'
  let numeral := rest.takeWhile inNumeral
  let digits := numeral.filterMap CodePoint.digitValue?
  if digits.isEmpty || !separatorsAreSingle numeral then .error (.malformed text)
  else if digitLimit < digits.length then .error (.tooLong digits.length)
  else if (rest.dropWhile inNumeral).all isIntegerBlank then
    .ok (signed negative (valueOfDigits digits))
  else .error (.malformed text)

/-- Digits of any script, after at most a minus sign. -/
def isSignedNumeral (text : Text) : Bool :=
  let digits := match text with
    | .char '-' :: rest => rest
    | _ => text
  !digits.isEmpty && digits.all CodePoint.isDecimal

example : readInteger " +1_0 " = .ok 10 := rfl

example : readInteger "- 1" = .error (.malformed "- 1") := rfl

end ServiceContract.Number
