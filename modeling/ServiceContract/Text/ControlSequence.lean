import ServiceContract.Text.Basic

/-!
# Control sequences

A control sequence tells a terminal how to show what follows: an escape character, an opening
bracket, parameters, intermediate characters and one final character.  `withoutControlSequences`
is the text that a terminal shows.
-/

namespace ServiceContract.Text

/-- A parameter of a control sequence, from `0` to `?`. -/
def isParameter (c : CodePoint) : Bool := 0x30 ≤ c.toNat && c.toNat ≤ 0x3F

/-- An intermediate character of a control sequence, from the space to `/`. -/
def isIntermediate (c : CodePoint) : Bool := 0x20 ≤ c.toNat && c.toNat ≤ 0x2F

/-- The last character of a control sequence, from `@` to `~`. -/
def isFinal (c : CodePoint) : Bool := 0x40 ≤ c.toNat && c.toNat ≤ 0x7E

/-- What follows the control sequence that a text starts with. -/
def afterSequence? : Text → Option Text
  | .char '\x1b' :: .char '[' :: rest =>
    match (rest.dropWhile isParameter).dropWhile isIntermediate with
    | c :: after => if isFinal c then some after else none
    | [] => none
  | _ => none

/-- The text without control sequences, with at most `fuel` steps. -/
def dropSequences : (fuel : Nat) → Text → Text
  | _, [] => []
  | 0, t => t
  | fuel + 1, c :: rest =>
    match afterSequence? (c :: rest) with
    | some after => dropSequences fuel after
    | none => c :: dropSequences fuel rest

/-- The text without control sequences. -/
def withoutControlSequences (t : Text) : Text := dropSequences t.length t

example : withoutControlSequences "a\x1b[1;31mb\x1b[?25l\x1b[" = "ab\x1b[" := by decide

end ServiceContract.Text
