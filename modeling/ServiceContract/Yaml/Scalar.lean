import ServiceContract.Number.Integer
import ServiceContract.Text.Hex
import ServiceContract.Text.Pieces

/-!
# Scalars of YAML 1.1

A scalar without quotes and tag may denote something else than its text: null, a truth value, an
integer, another number, a date, the merge sign `<<` or the value sign `=`.  `plainKind` tells
which; of an integer and a date it is still to be seen whether they have a value, which is what
`integerFault?` and `dateFault?` answer.
-/

namespace ServiceContract.Yaml

/-- What a plain scalar denotes. -/
inductive PlainKind where
  | null
  | boolean
  | integer
  | float
  | date
  | merge
  | value
  | text
  deriving DecidableEq, Repr

/-- Why a scalar has no value. -/
inductive ScalarFault where
  /-- A numeral of the given base has no digits. -/
  | noDigits (base : Nat)
  | integer (fault : Number.IntegerFault)
  | year
  | month
  | day
  | hour
  | minute
  | second
  deriving DecidableEq, Repr

/-- The wording of a fault. -/
def ScalarFault.message : ScalarFault → Text
  | noDigits base => "invalid literal for int() with base " ++ toString base ++ ": ''"
  | integer fault => fault.message
  | year => "year 0 is out of range"
  | month => "month must be in 1..12"
  | day => "day is out of range for month"
  | hour => "hour must be in 0..23"
  | minute => "minute must be in 0..59"
  | second => "second must be in 0..59"

/-- The words for null. -/
def nullWords : List Text := ["", "~", "null", "Null", "NULL"]

/-- The words for truth values. -/
def booleanWords : List Text :=
  ["yes", "Yes", "YES", "no", "No", "NO", "true", "True", "TRUE", "false", "False", "FALSE",
   "on", "On", "ON", "off", "Off", "OFF"]

/-- The words for infinity and for not being a number. -/
def floatWords : List Text :=
  [".inf", ".Inf", ".INF", "+.inf", "+.Inf", "+.INF", "-.inf", "-.Inf", "-.INF",
   ".nan", ".NaN", ".NAN"]

/-! ### Numbers -/

/-- The text after a sign. -/
def unsigned (t : Text) : Text := (Number.splitSign t).2

/-- A digit or a low line. -/
def isDigitOrLine (c : CodePoint) : Bool := c.isDigit || c == '_'

/-- Pieces after colons that count sixtieths: one digit, or two of which the first is at most
five. -/
def isSixtieth : Text → Bool
  | [a] => a.isDigit
  | [a, b] => a.isDigit && a.toNat ≤ 0x35 && b.isDigit
  | _ => false

/-- A nonempty text of characters of a class. -/
def isRun (p : CodePoint → Bool) (t : Text) : Bool := !t.isEmpty && t.all p

/-- An integer without its sign: binary, octal, decimal, hexadecimal or in sixtieths. -/
def isInteger (t : Text) : Bool :=
  match t with
  | [.char '0'] => true
  | .char '0' :: .char 'b' :: rest => isRun (fun c => c == '0' || c == '1' || c == '_') rest
  | .char '0' :: .char 'x' :: rest => isRun (fun c => CodePoint.isHexDigit c || c == '_') rest
  | .char '0' :: rest => isRun (fun c => (c.isDigit && c.toNat ≤ 0x37) || c == '_') rest
  | c :: _ =>
    c.isDigit &&
      match Text.pieces (.char ':') t with
      | whole :: sixtieths => whole.all isDigitOrLine && sixtieths.all isSixtieth
      | [] => false
  | [] => false

/-- Nothing, or an exponent with its sign. -/
def isExponent : Text → Bool
  | [] => true
  | mark :: sign :: digits =>
    (mark == 'e' || mark == 'E') && (sign == '+' || sign == '-') && isRun CodePoint.isDigit digits
  | _ => false

/-- The text after the digits and low lines of a fraction is an exponent. -/
def isFraction (t : Text) : Bool := isExponent (t.dropWhile isDigitOrLine)

/-- A number with a point, which has a sign only if a digit comes before the point. -/
def isFloat (t : Text) : Bool :=
  match t with
  | .char '.' :: digit :: rest => digit.isDigit && isFraction rest
  | _ =>
    let number := unsigned t
    let whole := number.takeWhile (· != .char '.')
    match Text.pieces (.char ':') whole, number.drop whole.length with
    | first :: sixtieths, .char '.' :: rest =>
      (first.head?.any CodePoint.isDigit) && first.all isDigitOrLine && sixtieths.all isSixtieth &&
        if sixtieths.isEmpty then isFraction rest else rest.all isDigitOrLine
    | _, _ => false

/-! ### Dates -/

/-- The numbers of a date, and of a time of day if there is one. -/
structure Date where
  year : Nat
  month : Nat
  day : Nat
  time : Option (Nat × Nat × Nat)

/-- A number of at least `least` and at most `most` digits at the start of a text. -/
def number? (least most : Nat) (t : Text) : Option (Nat × Text) :=
  let digits := (t.takeWhile CodePoint.isDigit).take most
  if least ≤ digits.length then some (Number.digitsValue digits, t.drop digits.length) else none

/-- The text after a character. -/
def after? (c : CodePoint) : Text → Option Text
  | d :: rest => if c = d then some rest else none
  | [] => none

/-- A space or a tabulator. -/
def isGap (c : CodePoint) : Bool := c == ' ' || c == '\t'

/-- A time zone: nothing, `Z`, or hours and maybe minutes after a sign. -/
def isZone (t : Text) : Bool :=
  match t.dropWhile isGap with
  | [] => t.isEmpty
  | [.char 'Z'] => true
  | sign :: rest =>
    (sign == '+' || sign == '-') &&
      match number? 1 2 rest with
      | some (_, []) => true
      | some (_, .char ':' :: minutes) => minutes.length == 2 && minutes.all CodePoint.isDigit
      | _ => false

/-- The time of day that a text after a date denotes. -/
def timeOf? (t : Text) : Option (Nat × Nat × Nat) := do
  let rest ← match t with
    | [] => none
    | c :: rest => if c = 'T' ∨ c = 't' then some rest else
        if isGap c then some (rest.dropWhile isGap) else none
  let (hour, rest) ← number? 1 2 rest
  let rest ← after? ':' rest
  let (minute, rest) ← number? 2 2 rest
  let rest ← after? ':' rest
  let (second, rest) ← number? 2 2 rest
  let zone := match rest with
    | .char '.' :: fraction => fraction.dropWhile CodePoint.isDigit
    | _ => rest
  if isZone zone then some (hour, minute, second) else none

/-- The date that a text denotes.  With a time of day, month and day may have one digit. -/
def dateOf? (t : Text) : Option Date := do
  let (year, rest) ← number? 4 4 t
  let rest ← after? '-' rest
  let (month, monthEnd) ← number? 1 2 rest
  let rest ← after? '-' monthEnd
  let (day, dayEnd) ← number? 1 2 rest
  if dayEnd.isEmpty then
    if t.length = 10 then some ⟨year, month, day, none⟩ else none
  else (timeOf? dayEnd).map fun time => ⟨year, month, day, some time⟩

/-- The number of days of a month. -/
def daysOf (year month : Nat) : Nat :=
  if month = 2 then
    if year % 4 = 0 ∧ (year % 100 ≠ 0 ∨ year % 400 = 0) then 29 else 28
  else if month = 4 ∨ month = 6 ∨ month = 9 ∨ month = 11 then 30
  else 31

/-- Why a date is none of the calendar. -/
def Date.fault? (d : Date) : Option ScalarFault :=
  if d.year = 0 then some .year
  else if d.month = 0 ∨ 12 < d.month then some .month
  else if d.day = 0 ∨ daysOf d.year d.month < d.day then some .day
  else match d.time with
    | none => none
    | some (hour, minute, second) =>
      if 23 < hour then some .hour
      else if 59 < minute then some .minute
      else if 59 < second then some .second
      else none

/-! ### Kinds -/

/-- What a plain scalar denotes. -/
def plainKind (text : Text) : PlainKind :=
  if nullWords.contains text then .null
  else if booleanWords.contains text then .boolean
  else if floatWords.contains text || isFloat text then .float
  else if isInteger (unsigned text) then .integer
  else if text = "<<" then .merge
  else if (dateOf? text).isSome then .date
  else if text = "=" then .value
  else .text

/-- Why an integer has no value. -/
def integerFault? (text : Text) : Option ScalarFault :=
  match (unsigned text).filter (· != .char '_') with
  | [.char '0', .char 'b'] => some (.noDigits 2)
  | [.char '0', .char 'x'] => some (.noDigits 16)
  | .char '0' :: _ => none
  | t =>
    let digits := (t.takeWhile CodePoint.isDigit).length
    if Number.digitLimit < digits then some (.integer (.tooLong digits)) else none

/-- Why a date has no value. -/
def dateFault? (text : Text) : Option ScalarFault :=
  (dateOf? text).bind Date.fault?

/-- Why a plain scalar has no value. -/
def plainFault? (text : Text) : Option ScalarFault :=
  match plainKind text with
  | .integer => integerFault? text
  | .date => dateFault? text
  | _ => none

example : (["010", "0x1F", "1_000", "1:30", "-1", "0b11"] : List Text).map plainKind =
    List.replicate 6 .integer := by decide +kernel

example : (["1.2", ".5", "1.0e+3", "5.", "-.inf"] : List Text).map plainKind =
    List.replicate 5 .float := by decide +kernel

example : (["1e3", "0o17", "08", "y", "1.2.3", "2024-1", "-.5"] : List Text).map plainKind =
    List.replicate 7 .text := by decide +kernel

end ServiceContract.Yaml
