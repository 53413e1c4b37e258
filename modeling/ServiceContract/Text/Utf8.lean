import ServiceContract.Text.Hex

/-!
# Reading UTF-8

`nextChar` reads one character from a list of octets.  Where the octets are ill-formed it says how
many of them belong to the fault: the longest start of a well-formed sequence, or one octet if
there is none.  `decode` refuses a text at its first fault; `decodeLossy` puts U+FFFD for each.
-/

namespace ServiceContract.Text

/-- How octets fail to be a character. -/
inductive Utf8Reason where
  | invalidStart
  | invalidContinuation
  | unexpectedEnd
  deriving DecidableEq, Repr

/-- The wording of a reason. -/
def Utf8Reason.text : Utf8Reason → String
  | .invalidStart => "invalid start byte"
  | .invalidContinuation => "invalid continuation byte"
  | .unexpectedEnd => "unexpected end of data"

/-- A fault: the first octet, its position, the number of octets that belong to it. -/
structure Utf8Fault where
  octet : UInt8
  position : Nat
  length : Nat
  reason : Utf8Reason
  deriving DecidableEq, Repr

/-- The wording of a fault. -/
def Utf8Fault.message (fault : Utf8Fault) : String :=
  "'utf-8' codec can't decode " ++
    (if fault.length = 1 then
      "byte 0x" ++ hexDigits 2 fault.octet.toNat ++ " in position " ++ toString fault.position
    else
      "bytes in position " ++ toString fault.position ++ "-" ++
        toString (fault.position + fault.length - 1)) ++
    ": " ++ fault.reason.text

/-- What octets start with: a character or a fault, its number of octets, and the octets after
it. -/
inductive Utf8Step where
  | character (c : Char) (length : Nat) (rest : List UInt8)
  | fault (length : Nat) (reason : Utf8Reason) (rest : List UInt8)

/-- The number of octets of a sequence, by its first octet. -/
def sequenceLength? (octet : UInt8) : Option Nat :=
  if octet < 0x80 then some 1
  else if octet < 0xC2 then none
  else if octet < 0xE0 then some 2
  else if octet < 0xF0 then some 3
  else if octet < 0xF5 then some 4
  else none

/-- Whether `second` may follow `first`: neither an overlong form, nor a surrogate, nor a number
beyond the last code point starts so. -/
def allowsSecond (first second : UInt8) : Bool :=
  0x80 ≤ second && second < 0xC0 &&
    (first != 0xE0 || 0xA0 ≤ second) && (first != 0xED || second < 0xA0) &&
    (first != 0xF0 || 0x90 ≤ second) && (first != 0xF4 || second < 0x90)

/-- An octet that continues a sequence. -/
def isContinuation (octet : UInt8) : Bool := 0x80 ≤ octet && octet < 0xC0

/-- The code point of a sequence of octets, of which `first` starts with the given number. -/
def codePoint (first : Nat) (others : List UInt8) : Nat :=
  others.foldl (fun n octet => n * 64 + octet.toNat % 64) first

/-- Reads a sequence of two to four octets that starts with `first`. -/
def nextSequence (first : UInt8) (length : Nat) (rest : List UInt8) : Utf8Step :=
  match rest with
  | [] => .fault 1 .unexpectedEnd []
  | second :: rest₂ =>
    if !allowsSecond first second then .fault 1 .invalidContinuation rest
    else if length = 2 then .character (Char.ofNat (codePoint (first.toNat % 32) [second])) 2 rest₂
    else match rest₂ with
      | [] => .fault 2 .unexpectedEnd []
      | third :: rest₃ =>
        if !isContinuation third then .fault 2 .invalidContinuation rest₂
        else if length = 3 then
          .character (Char.ofNat (codePoint (first.toNat % 16) [second, third])) 3 rest₃
        else match rest₃ with
          | [] => .fault 3 .unexpectedEnd []
          | fourth :: rest₄ =>
            if !isContinuation fourth then .fault 3 .invalidContinuation rest₃
            else
              .character (Char.ofNat (codePoint (first.toNat % 8) [second, third, fourth])) 4 rest₄

/-- Reads the character that starts with `first`. -/
def nextChar (first : UInt8) (rest : List UInt8) : Utf8Step :=
  match sequenceLength? first with
  | none => .fault 1 .invalidStart rest
  | some 1 => .character (Char.ofNat first.toNat) 1 rest
  | some length => nextSequence first length rest

/-- The text of some octets at `position`, with at most `fuel` steps. -/
def decodeFrom : (fuel position : Nat) → List UInt8 → Except Utf8Fault Text
  | _, _, [] => .ok []
  | 0, _, _ => .ok []
  | fuel + 1, position, first :: rest =>
    match nextChar first rest with
    | .character c length after =>
      (decodeFrom fuel (position + length) after).map (CodePoint.char c :: ·)
    | .fault length reason _ => .error ⟨first, position, length, reason⟩

/-- The text that octets encode. -/
def decode (octets : List UInt8) : Except Utf8Fault Text :=
  decodeFrom octets.length 0 octets

/-- The text of some octets with U+FFFD for each fault, with at most `fuel` steps. -/
def decodeLossyFrom : (fuel : Nat) → List UInt8 → Text
  | _, [] => []
  | 0, _ => []
  | fuel + 1, first :: rest =>
    match nextChar first rest with
    | .character c _ after => c :: decodeLossyFrom fuel after
    | .fault _ _ after => '\ufffd' :: decodeLossyFrom fuel after

/-- The text that octets encode, with U+FFFD for each fault. -/
def decodeLossy (octets : List UInt8) : Text :=
  decodeLossyFrom octets.length octets

example : (decode [0x61, 0xC3, 0x28]).toOption = none := by decide

example : decodeLossy [0x61, 0xE9, 0x2E] = "a\ufffd." := by decide

end ServiceContract.Text
