import ServiceContract.Text.Hex

/-!
# Writing texts

UTF-8 has no place for surrogates.  `encodeFault?` finds the first ones that keep a text from
being written; `escapeSurrogates` writes each of them as an escape instead.  The name of a file is
a row of octets: there the surrogates U+DC80 to U+DCFF stand for the octets from 0x80 on.
-/

namespace ServiceContract

/-- Surrogates in a row that cannot be written: the first of them, its position in the text, and
their number. -/
structure EncodeFault where
  first : CodePoint
  position : Nat
  length : Nat
  deriving DecidableEq, Repr

/-- The wording of a fault. -/
def EncodeFault.message (fault : EncodeFault) : String :=
  "'utf-8' codec can't encode " ++
    (if fault.length = 1 then
      "character '\\u" ++ Text.hexDigits 4 fault.first.toNat ++ "' in position " ++
        toString fault.position
    else
      "characters in position " ++ toString fault.position ++ "-" ++
        toString (fault.position + fault.length - 1)) ++
    ": surrogates not allowed"

namespace CodePoint

/-- The octet that a surrogate stands for in the name of a file. -/
def nameOctet? (c : CodePoint) : Option UInt8 :=
  if 0xDC80 ≤ c.toNat ∧ c.toNat ≤ 0xDCFF then some (UInt8.ofNat (c.toNat - 0xDC00)) else none

/-- The octets of a code point in the name of a file. -/
def nameOctets : CodePoint → List UInt8
  | char c => String.utf8EncodeChar c
  | surrogate index => (nameOctet? (surrogate index)).toList

end CodePoint

namespace Text

/-- The first surrogates of a text that cannot be written, where those of `p` can. -/
def faultExcept? (p : CodePoint → Bool) (t : Text) : Option EncodeFault :=
  match t.dropWhile fun c => !c.isSurrogate || p c with
  | [] => none
  | first :: rest =>
    some ⟨first, t.length - (rest.length + 1), (rest.takeWhile CodePoint.isSurrogate).length + 1⟩

/-- The first surrogates of a text. -/
def encodeFault? (t : Text) : Option EncodeFault := t.faultExcept? fun _ => false

/-- The octets of a text as the name of a file. -/
def nameOctets (t : Text) : Except EncodeFault (List UInt8) :=
  match t.faultExcept? fun c => c.nameOctet?.isSome with
  | some fault => .error fault
  | none => .ok (t.flatMap CodePoint.nameOctets)

/-- The characters of a text, with an escape in place of each surrogate. -/
def escapeSurrogates (t : Text) : String :=
  String.join (t.map fun
    | .char c => c.toString
    | .surrogate index => "\\u" ++ hexDigits 4 (CodePoint.surrogate index).toNat)

/-- The characters of a text. -/
def encode (t : Text) : Except EncodeFault String :=
  match t.encodeFault? with
  | some fault => .error fault
  | none => .ok t.escapeSurrogates

example : (encodeFault? [.char 'a', .surrogate 0, .surrogate 1, .char 'b']).map (·.message) =
    some "'utf-8' codec can't encode characters in position 1-2: surrogates not allowed" := by
  decide

example : nameOctets [.char 'é', .surrogate 0x480] = .ok [0xC3, 0xA9, 0x80] := by rfl

example : escapeSurrogates [.char 'a', .surrogate 0x7FF] = "a\\udfff" := by decide

end Text

end ServiceContract
