import ServiceContract.Json.Value
import ServiceContract.Number.Integer
import ServiceContract.Text.Hex

/-!
# Reading JSON text

`read` reads one value from a text, with `NaN`, `Infinity` and `-Infinity` as numbers.  White
space is the space, the tabulator, the line feed and the carriage return.  The first fault from
the left stops it: text that is not JSON, an integer of more than `Number.digitLimit` digits, or
nesting deeper than `depthLimit`.

While reading, a place in the text is named by the number of code points from there to the end.
Two escapes in a row that name a surrogate pair denote its character; any other escape denotes the
code point that it names.
-/

namespace ServiceContract.Json

/-- What is wrong at some place of a text that is not JSON. -/
inductive Complaint where
  | expectedValue
  | expectedKey
  | expectedColon
  | expectedComma
  | unterminatedString
  | controlCharacter
  | badEscape
  | badUnicodeEscape
  | extraData
  | byteOrderMark
  deriving DecidableEq, Repr

/-- The wording of a complaint. -/
def Complaint.text : Complaint → String
  | .expectedValue => "Expecting value"
  | .expectedKey => "Expecting property name enclosed in double quotes"
  | .expectedColon => "Expecting ':' delimiter"
  | .expectedComma => "Expecting ',' delimiter"
  | .unterminatedString => "Unterminated string starting at"
  | .controlCharacter => "Invalid control character at"
  | .badEscape => "Invalid \\escape"
  | .badUnicodeEscape => "Invalid \\uXXXX escape"
  | .extraData => "Extra data"
  | .byteOrderMark => "Unexpected UTF-8 BOM (decode using utf-8-sig)"

/-- Why reading stops; `left` code points of the text remain from the place of the fault on. -/
inductive Stop where
  | malformed (complaint : Complaint) (left : Nat)
  | integerTooLong (digits : Nat)
  | tooDeep
  deriving DecidableEq, Repr

/-- The greatest depth of nested arrays and objects. -/
def depthLimit : Nat := 990

/-- White space between the parts of a text. -/
def isSpace (c : CodePoint) : Bool :=
  c == ' ' || c == '\t' || c == '\n' || c == '\r'

/-- The text after leading white space. -/
def skipSpace (t : Text) : Text := t.dropWhile isSpace

/-! ### Strings -/

/-- The first half of a surrogate pair. -/
def isHighSurrogate (n : Nat) : Bool := 0xD800 ≤ n && n < 0xDC00

/-- The second half of a surrogate pair. -/
def isLowSurrogate (n : Nat) : Bool := 0xDC00 ≤ n && n < 0xE000

/-- The character that a surrogate pair denotes. -/
def charOfPair (high low : Nat) : Char :=
  Char.ofNat (0x10000 + (high - 0xD800) * 0x400 + (low - 0xDC00))

/-- The character that a backslash and `c` denote. -/
def escaped? (c : CodePoint) : Option CodePoint :=
  match c with
  | .char '"' => some '"'
  | .char '\\' => some '\\'
  | .char '/' => some '/'
  | .char 'b' => some '\x08'
  | .char 'f' => some '\x0c'
  | .char 'n' => some '\n'
  | .char 'r' => some '\r'
  | .char 't' => some '\t'
  | _ => none

/-- The first half of a pair that was left open. -/
def loneHalf (pending : Option Nat) : Text := (pending.map CodePoint.ofNat).toList

/-- The code points that a code unit completes, after the first half of a pair or nothing, and the
first half that it leaves open. -/
def acceptUnit (pending : Option Nat) (unit : Nat) : Text × Option Nat :=
  if isHighSurrogate unit then (loneHalf pending, some unit)
  else match pending with
    | some high =>
      (if isLowSurrogate unit then [.char (charOfPair high unit)]
        else [CodePoint.ofNat high, CodePoint.ofNat unit], none)
    | none => ([CodePoint.ofNat unit], none)

/-- The text of a string up to its closing quote, and what follows the quote; `pending` is the
first half of a surrogate pair if one was just read.  Without a closing quote the answer is no
fault of its own: the fault is at the opening quote. -/
def readString : (pending : Option Nat) → Text → Except (Option Stop) (Text × Text)
  | _, [] => .error none
  | pending, .char '"' :: rest => .ok (loneHalf pending, rest)
  | pending, .char '\\' :: .char 'u' :: a :: b :: c :: d :: rest =>
    match Text.hexNumber? [a, b, c, d] with
    | some unit =>
      if rest.isEmpty then .error (some (.malformed .badUnicodeEscape 5))
      else
        let (done, pending) := acceptUnit pending unit
        (readString pending rest).map fun (s, left) => (done ++ s, left)
    | none => .error (some (.malformed .badUnicodeEscape (rest.length + 5)))
  | _, .char '\\' :: .char 'u' :: rest =>
    .error (some (.malformed .badUnicodeEscape (rest.length + 1)))
  | pending, .char '\\' :: c :: rest =>
    match escaped? c with
    | some e => (readString none rest).map fun (s, left) => (loneHalf pending ++ e :: s, left)
    | none => .error (some (.malformed .badEscape (rest.length + 2)))
  | _, [.char '\\'] => .error none
  | pending, c :: rest =>
    if c.toNat < 0x20 then .error (some (.malformed .controlCharacter (rest.length + 1)))
    else (readString none rest).map fun (s, left) => (loneHalf pending ++ c :: s, left)

/-- The text of a string whose opening quote was just read, and what follows the closing one. -/
def readText (t : Text) : Except Stop (Text × Text) :=
  match readString none t with
  | .ok result => .ok result
  | .error (some stop) => .error stop
  | .error none => .error (.malformed .unterminatedString (t.length + 1))

/-! ### Numbers -/

/-- The parts of a numeral: whether it has a minus sign, its integer digits, its fraction digits,
and its exponent if it has one. -/
structure Numeral where
  negative : Bool
  whole : Text
  fraction : Text
  exponent : Option Int

/-- The integer digits that a text starts with: a zero, or digits of which the first is none. -/
def readWhole : Text → Option (Text × Text)
  | .char '0' :: rest => some ("0", rest)
  | t =>
    let digits := t.takeWhile CodePoint.isDigit
    if digits.isEmpty then none else some (digits, t.dropWhile CodePoint.isDigit)

/-- The digits after a point, if a point with a digit after it comes next. -/
def readFraction : Text → Text × Text
  | .char '.' :: rest =>
    let digits := rest.takeWhile CodePoint.isDigit
    if digits.isEmpty then ([], .char '.' :: rest) else (digits, rest.dropWhile CodePoint.isDigit)
  | t => ([], t)

/-- The exponent, if a mark with digits after it comes next. -/
def readExponent : Text → Option Int × Text
  | [] => (none, [])
  | mark :: rest =>
    if mark = 'e' ∨ mark = 'E' then
      let (negative, unsigned) := Number.splitSign rest
      let digits := unsigned.takeWhile CodePoint.isDigit
      if digits.isEmpty then (none, mark :: rest)
      else
        (some (Number.signed negative (Number.digitsValue digits)),
          unsigned.dropWhile CodePoint.isDigit)
    else (none, mark :: rest)

/-- The numeral that a text starts with. -/
def readNumeral (t : Text) : Option (Numeral × Text) :=
  let (negative, unsigned) := match t with
    | .char '-' :: more => (true, more)
    | more => (false, more)
  (readWhole unsigned).map fun (whole, rest) =>
    let (fraction, rest) := readFraction rest
    let (exponent, rest) := readExponent rest
    (⟨negative, whole, fraction, exponent⟩, rest)

/-- The number that a numeral denotes. -/
def Numeral.value (n : Numeral) : Except Stop Value :=
  if n.fraction.isEmpty && n.exponent.isNone then
    if Number.digitLimit < n.whole.length then .error (.integerTooLong n.whole.length)
    else .ok (.int (Number.signed n.negative (Number.digitsValue n.whole)))
  else
    .ok (.float (Number.Binary64.ofDecimal n.negative (Number.digitsValue (n.whole ++ n.fraction))
      (n.exponent.getD 0 - n.fraction.length)))

/-! ### Values -/

/-- The constants and what they are written as. -/
def constants : List (Text × Value) :=
  [("null", .null), ("true", .bool true), ("false", .bool false), ("NaN", .float .nan),
   ("Infinity", .float (.infinite false)), ("-Infinity", .float (.infinite true))]

/-- The constant that a text starts with. -/
def readConstant? (t : Text) : Option (Value × Text) :=
  constants.findSome? fun (name, value) =>
    if name.isPrefixOf t then some (value, t.drop name.length) else none

/-- The constant or number that a text starts with. -/
def readScalar (t : Text) : Except Stop (Value × Text) :=
  match readConstant? t with
  | some result => .ok result
  | none =>
    match readNumeral t with
    | some (numeral, rest) => numeral.value.map fun value => (value, rest)
    | none => .error (.malformed .expectedValue t.length)

mutual

/-- The value that a text starts with, at a place where `depth` more levels may be opened. -/
def readValue : (fuel depth : Nat) → Text → Except Stop (Value × Text)
  | 0, _, t => .error (.malformed .expectedValue t.length)
  | fuel + 1, depth, t =>
    match t with
    | .char '"' :: rest => (readText rest).map fun (s, left) => (.string s, left)
    | .char '{' :: rest =>
      match depth with
      | 0 => .error .tooDeep
      | depth + 1 =>
        match skipSpace rest with
        | .char '}' :: left => .ok (.object [], left)
        | left =>
          (readMembers fuel depth [] left).map fun (members, left) => (.object members, left)
    | .char '[' :: rest =>
      match depth with
      | 0 => .error .tooDeep
      | depth + 1 =>
        match skipSpace rest with
        | .char ']' :: left => .ok (.array [], left)
        | left => (readItems fuel depth left).map fun (items, left) => (.array items, left)
    | t => readScalar t

/-- The members of an object from a key on, after those already read. -/
def readMembers : (fuel depth : Nat) → Members → Text → Except Stop (Members × Text)
  | 0, _, _, t => .error (.malformed .expectedKey t.length)
  | fuel + 1, depth, members, t =>
    match t with
    | .char '"' :: rest => do
      let (key, left) ← readText rest
      match skipSpace left with
      | .char ':' :: left =>
        let (value, left) ← readValue fuel depth (skipSpace left)
        let members := members.put key value
        match skipSpace left with
        | .char '}' :: left => .ok (members, left)
        | .char ',' :: left => readMembers fuel depth members (skipSpace left)
        | left => .error (.malformed .expectedComma left.length)
      | left => .error (.malformed .expectedColon left.length)
    | t => .error (.malformed .expectedKey t.length)

/-- The items of an array from a value on. -/
def readItems : (fuel depth : Nat) → Text → Except Stop (List Value × Text)
  | 0, _, t => .error (.malformed .expectedValue t.length)
  | fuel + 1, depth, t => do
    let (value, left) ← readValue fuel depth t
    match skipSpace left with
    | .char ']' :: left => .ok ([value], left)
    | .char ',' :: left =>
      (readItems fuel depth (skipSpace left)).map fun (items, left) => (value :: items, left)
    | left => .error (.malformed .expectedComma left.length)

end

/-- The value that a whole text denotes. -/
def readAll (t : Text) : Except Stop Value := do
  let (value, left) ← readValue (2 * t.length + 2) depthLimit (skipSpace t)
  match skipSpace left with
  | [] => .ok value
  | left => .error (.malformed .extraData left.length)

/-! ### Faults with their places -/

/-- A place in a text: line and column from one, and the number of code points before it. -/
structure Place where
  line : Nat
  column : Nat
  offset : Nat
  deriving DecidableEq, Repr

/-- The place after the given text; lines end with a line feed. -/
def placeAfter (before : Text) : Place where
  line := before.count (.char '\n') + 1
  column := (before.reverse.takeWhile (· != .char '\n')).length + 1
  offset := before.length

/-- Why a text has no value. -/
inductive Fault where
  | malformed (complaint : Complaint) (place : Place)
  | integerTooLong (digits : Nat)
  | tooDeep
  deriving DecidableEq, Repr

/-- The fault of a text where reading stopped. -/
def Stop.toFault (t : Text) : Stop → Fault
  | .malformed complaint left => .malformed complaint (placeAfter (t.take (t.length - left)))
  | .integerTooLong digits => .integerTooLong digits
  | .tooDeep => .tooDeep

/-- A complaint with its place in words. -/
def Complaint.messageAt (complaint : Complaint) (place : Place) : String :=
  complaint.text ++ ": line " ++ toString place.line ++ " column " ++ toString place.column ++
    " (char " ++ toString place.offset ++ ")"

/-- The value that a text denotes. -/
def read (text : Text) : Except Fault Value :=
  match text with
  | .char '\ufeff' :: _ => .error (.malformed .byteOrderMark (placeAfter []))
  | t => (readAll t).mapError (Stop.toFault t)

end ServiceContract.Json
