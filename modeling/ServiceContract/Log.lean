import ServiceContract.Text.Basic

/-!
# Logs

What happens on the way of a validation is noted in records.  A record is shown when its level is
not below the one that is set.  How a shown record is written is left to a `Writer`, since that
depends on the time at which it is noted, and so is what those that fetch a document write
themselves in the meantime.
-/

namespace ServiceContract.Log

/-! ### Levels -/

/-- How much a record matters. -/
inductive Level where
  | unset
  | debug
  | info
  | warning
  | error
  | critical
  deriving DecidableEq, Repr

namespace Level

/-- The number of a level; what matters more has the larger one. -/
def rank : Level → Nat
  | unset => 0
  | debug => 10
  | info => 20
  | warning => 30
  | error => 40
  | critical => 50

/-- The names of levels. -/
def names : List (Text × Level) := [
  ("CRITICAL", critical), ("FATAL", critical), ("ERROR", error), ("WARN", warning),
  ("WARNING", warning), ("INFO", info), ("DEBUG", debug), ("NOTSET", unset)]

/-- The level of a name. -/
def ofName? (name : Text) : Option Level := names.lookup name

end Level

/-! ### Records -/

/-- What is noted. -/
inductive Record where
  /-- A text is no document. -/
  | noDocument (reason : Text)
  /-- An import is about to be fetched. -/
  | fetching (uri : Text)
  /-- An import cannot be had. -/
  | unavailable (uri reason : Text)
  /-- The rules have messages about a document. -/
  | brokenRules (name : Text) (errors : Nat)
  /-- A service is wrong as a whole. -/
  | inconsistent (name : Text) (errors : Nat)
  /-- A service is in order. -/
  | accepted (name : Text)
  deriving DecidableEq, Repr

namespace Record

/-- The level of a record. -/
def level : Record → Level
  | unavailable .. => .info
  | _ => .debug

/-- What a record says to have happened. -/
def event : Record → Text
  | noDocument _ => "Document could not be parsed"
  | fetching _ => "Fetching import"
  | unavailable .. => "Import fetch failed"
  | brokenRules .. => "Rule validation failed"
  | inconsistent .. => "Service validation failed"
  | accepted _ => "Service is valid"

/-- The values that go with what happened, with their names. -/
def fields : Record → List (Text × Text)
  | noDocument reason => [("reason", reason)]
  | fetching uri => [("uri", uri)]
  | unavailable uri reason => [("uri", uri), ("error", reason)]
  | brokenRules name errors | inconsistent name errors =>
    [("service", name), ("error_count", toString errors)]
  | accepted name => [("service", name)]

/-- Whether the record is shown in a log from the given level on. -/
def isShownAt (level : Level) (r : Record) : Bool := level.rank ≤ r.level.rank

/-- A value that goes with a record, after its name. -/
def fieldText : Text × Text → Text
  | (name, value) => " " ++ name ++ "=" ++ value

/-- The record in one line. -/
def line (r : Record) : Text := r.event ++ r.fields.flatMap fieldText ++ "\n"

end Record

/-! ### Writing -/

/-- What writes a log. -/
structure Writer where
  /-- How the record at a place is written. -/
  record : (place : Nat) → Record → String
  /-- What is written from the level on while the document at an address is fetched, after the record
  at a place. -/
  aside : Level → (place : Nat) → (uri : Text) → String := fun _ _ _ => ""

/-- What is written at the place of a record. -/
def Writer.entry (w : Writer) (level : Level) (place : Nat) (r : Record) : String :=
  (if r.isShownAt level then w.record place r else "") ++
    match r with
    | .fetching uri => w.aside level place uri
    | _ => ""

/-- The log as it is written from the level on. -/
def written (w : Writer) (level : Level) (records : List Record) : String :=
  String.join (records.mapIdx (w.entry level))

end ServiceContract.Log
