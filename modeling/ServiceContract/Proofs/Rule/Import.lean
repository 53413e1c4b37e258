import ServiceContract.Proofs.Inquiry
import ServiceContract.Rule.Import

/-!
# What the rule for imports asks for

Whatever the answers are, the rule asks for the usable addresses of the imports one after the
other (`asks_imports`): the check of an import asks for its address once, and an import whose
address is missing or cannot be used is not checked.
-/

namespace ServiceContract

open Inquiry

/-- The check of an import asks for its address, once. -/
theorem Import.asks_check (uri : Text) : Asks [uri] (Import.check uri) := by
  refine .note (.ask fun answer => ?_)
  cases answer with
  | ok text => exact .done _
  | error fault =>
    cases fault with
    | unavailable reason => exact .note (.done _)
    | badAddress reason => exact .done _
    | badPath fault => exact .done _

namespace Rule

/-- The address of an import, if it has one without problems. -/
def usableAddress? (i : Draft.Import) : Option Text :=
  i.uri.filter fun uri => (Uri.problems uri).isEmpty

theorem isEmpty_problems (uri : Text) :
    (Uri.problems uri).isEmpty = (Uri.problem? uri).isNone := by
  unfold Uri.problems
  cases Uri.problem? uri <;> rfl

theorem asks_aboutImport (i : Draft.Import) :
    Asks (usableAddress? i).toList (aboutImport i) := by
  unfold aboutImport usableAddress?
  cases i.uri with
  | none => exact .done _
  | some uri =>
    cases hp : Uri.problem? uri with
    | some problem =>
      simp only [Option.filter, isEmpty_problems, hp]
      exact .done _
    | none =>
      simp only [Option.filter, isEmpty_problems, hp]
      exact Import.asks_check uri

theorem filterMap_usableAddress?_cons (i : Draft.Import) (rest : List Draft.Import) :
    (i :: rest).filterMap usableAddress? =
      (usableAddress? i).toList ++ rest.filterMap usableAddress? := by
  rw [List.filterMap_cons]
  cases usableAddress? i <;> rfl

theorem asks_aboutImports (is : List Draft.Import) :
    Asks (is.filterMap usableAddress?) (aboutImports is) := by
  induction is with
  | nil => exact .done _
  | cons i rest ih =>
    rw [filterMap_usableAddress?_cons, ← List.append_nil (rest.filterMap usableAddress?)]
    exact (asks_aboutImport i).bind fun messages => ih.bind fun _ => .done _

/-- The rule asks for the usable addresses in order. -/
theorem asks_imports (d : Draft) : Asks (d.imports.filterMap usableAddress?) (imports d) :=
  asks_aboutImports d.imports

end Rule

end ServiceContract
