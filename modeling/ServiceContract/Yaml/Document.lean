import ServiceContract.Text.Basic

/-!
# YAML documents

What a YAML document says, as far as a configuration depends on it, and why a text may say nothing.
A `Reader` makes the one from the text; which reader is used is left to the program that runs.
-/

namespace ServiceContract.Yaml

/-- A value: null, a text, octets, or anything else. -/
inductive Value where
  | null
  | text (s : Text)
  | octets (content : List UInt8)
  | other
  deriving DecidableEq, Repr

/-- What a document holds: nothing, pairs of keys and values, or anything else. -/
inductive Document where
  | null
  | mapping (pairs : List (Value × Value))
  | other
  deriving DecidableEq, Repr

/-- Why nothing is read from a text. -/
inductive Fault where
  /-- The text is not YAML. -/
  | malformed
  /-- Something in the text has no value, for the given reason. -/
  | noValue (reason : Text)
  /-- A number in the text exceeds what the reader can hold, for the given reason. -/
  | tooLarge (reason : Text)
  deriving DecidableEq, Repr

/-- What reads documents. -/
abbrev Reader := Text → Except Fault Document

end ServiceContract.Yaml
