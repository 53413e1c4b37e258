import ServiceContract.Number.Numeral
import ServiceContract.Text.Pieces
import ServiceContract.Text.Utf8

/-!
# Settings

The settings of a process come from its environment.  A variable is known by its name with the
letters `API_JSON_` in front, in any case; of several that differ in case only the last counts.
-/

namespace ServiceContract

/-- How documents are fetched, and what is logged. -/
structure Settings where
  httpTimeout : Number.Binary64 := .finite false (15 * Nat.pow 2 49) (-48)
  userAgent : Text := "api-json-validator"
  logLevel : Text := "WARNING"
  deriving DecidableEq, Repr

namespace Settings

/-- Why an environment has no settings. -/
inductive Fault where
  /-- The timeout is no number. -/
  | timeout
  deriving DecidableEq, Repr

/-- The wording of a fault. -/
def Fault.message : Fault → String
  | timeout => "the timeout is no number"

/-- Variables and their values. -/
abbrev Environment := List (Text × Text)

/-- The variable and its value that octets spell: its name stands before the first equals sign. -/
def binding? (octets : List UInt8) : Option (Text × Text) :=
  let binding := Text.decodeLossy octets
  match binding.dropWhile (· != .char '=') with
  | [] => none
  | _ :: value => some (binding.takeWhile (· != .char '='), value)

/-- The variables of a block of octets, where a zero octet ends each of them. -/
def Environment.ofOctets (octets : List UInt8) : Environment :=
  (Text.pieces 0 octets).filterMap binding?

/-- The value of the setting with the given name. -/
def Environment.setting? (env : Environment) (name : Text) : Option Text :=
  (env.reverse.find? fun (known, _) => known.toLower == "api_json_" ++ name).map (·.2)

/-- The settings of an environment. -/
def ofEnvironment (env : Environment) : Except Fault Settings :=
  let initial : Settings := {}
  let texts : Settings := {
    httpTimeout := initial.httpTimeout
    userAgent := (env.setting? "user_agent").getD initial.userAgent
    logLevel := (env.setting? "log_level").getD initial.logLevel }
  match env.setting? "http_timeout" with
  | none => .ok texts
  | some text =>
    match Number.ofText? text with
    | some timeout => .ok { texts with httpTimeout := timeout }
    | none => .error .timeout

end Settings

end ServiceContract
