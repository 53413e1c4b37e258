import ServiceContract.Files.Path
import ServiceContract.Log

/-!
# Inquiries

Whether the imports of a service are in order can be seen only from documents that are fetched.  An
`Inquiry` is a computation that asks for documents on its way to an outcome and goes on with what
it is answered; it may also note something in the log.  `Inquiry.run` answers it by a fetcher, and
tells what the inquiry asked for and noted.
-/

namespace ServiceContract

/-- Why a document was not fetched. -/
inductive FetchFault where
  /-- The document cannot be had, for the given reason. -/
  | unavailable (reason : Text)
  /-- The address cannot be taken apart, for the given reason. -/
  | badAddress (reason : Text)
  /-- The address is one of a file whose path cannot be looked up. -/
  | badPath (fault : Files.PathFault)
  deriving DecidableEq, Repr

/-- The wording of a fault. -/
def FetchFault.message : FetchFault → Text
  | unavailable reason | badAddress reason => reason
  | badPath fault => fault.message

/-- What is found at an address. -/
abbrev Answer := Except FetchFault Text

/-- What yields the text at an address. -/
abbrev Fetch := Text → Answer

/-- A computation that asks for documents on its way. -/
inductive Inquiry (ε α : Type) where
  /-- Comes to an end. -/
  | done (outcome : Except ε α)
  /-- Notes something, and goes on. -/
  | note (record : Log.Record) (next : Inquiry ε α)
  /-- Asks for the document at an address, and goes on with the answer. -/
  | ask (uri : Text) (next : Answer → Inquiry ε α)

namespace Inquiry

variable {ε ε' α β : Type}

/-- Goes on with what the first inquiry yields; a fault ends both. -/
def bind : Inquiry ε α → (α → Inquiry ε β) → Inquiry ε β
  | done (.ok a), f => f a
  | done (.error fault), _ => done (.error fault)
  | note record next, f => note record (next.bind f)
  | ask uri next, f => ask uri fun answer => (next answer).bind f

instance : Monad (Inquiry ε) where
  pure a := done (.ok a)
  bind := bind

/-- The inquiry with another outcome, made from its own. -/
def mapOutcome (f : Except ε α → Except ε' β) : Inquiry ε α → Inquiry ε' β
  | done outcome => done (f outcome)
  | note record next => note record (next.mapOutcome f)
  | ask uri next => ask uri fun answer => (next answer).mapOutcome f

/-- What came of an inquiry: the addresses it asked for and the records it noted, both in order,
and its outcome. -/
structure Run (ε α : Type) where
  asked : List Text
  noted : List Log.Record
  outcome : Except ε α

/-- Answers an inquiry by a fetcher. -/
def run (fetch : Fetch) : Inquiry ε α → Run ε α
  | done outcome => ⟨[], [], outcome⟩
  | note record next =>
    let rest := next.run fetch
    { rest with noted := record :: rest.noted }
  | ask uri next =>
    let rest := (next (fetch uri)).run fetch
    { rest with asked := uri :: rest.asked }

end Inquiry

end ServiceContract
