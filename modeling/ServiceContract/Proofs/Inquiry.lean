import Mathlib.Data.List.Infix
import ServiceContract.Inquiry
import ServiceContract.Proofs.Outcome

/-!
# Runs of inquiries

The outcome of inquiries in a row is that of their outcomes in a row (`outcome_run_bind`).  What an
inquiry asks for is a matter of the inquiry, whatever it is answered: `Asks` lists the addresses
that it asks for.  It is kept when inquiries are put together, and holds of every run
(`Asks.isPrefix_asked`, `Asks.asked_eq`); the answers may even depend on what was asked before.
-/

namespace ServiceContract

/-- A fetcher whose answers may depend on the addresses that it was asked for before. -/
abbrev RecallingFetch := List Text → Fetch

namespace Inquiry

variable {ε ε' α β : Type} {i : Inquiry ε α}

/-! ### Outcomes -/

theorem outcome_run_pure (fetch : Fetch) (a : α) :
    ((pure a : Inquiry ε α).run fetch).outcome = .ok a := rfl

theorem outcome_run_bind (fetch : Fetch) (i : Inquiry ε α) (f : α → Inquiry ε β) :
    ((i >>= f).run fetch).outcome =
      ((i.run fetch).outcome >>= fun a => ((f a).run fetch).outcome) := by
  induction i with
  | done outcome => cases outcome <;> rfl
  | note record next ih => exact ih
  | ask uri next ih => exact ih (fetch uri)

theorem run_mapOutcome (fetch : Fetch) (f : Except ε α → Except ε' β) (i : Inquiry ε α) :
    (i.mapOutcome f).run fetch =
      ⟨(i.run fetch).asked, (i.run fetch).noted, f (i.run fetch).outcome⟩ := by
  induction i with
  | done outcome => rfl
  | note record next ih => rw [mapOutcome, run, ih, run]
  | ask uri next ih => rw [mapOutcome, run, ih, run]

theorem outcome_run_mapOutcome (fetch : Fetch) (f : Except ε α → Except ε' β)
    (i : Inquiry ε α) : ((i.mapOutcome f).run fetch).outcome = f (i.run fetch).outcome := by
  rw [run_mapOutcome]

/-- What an inquiry yields may as well be changed at the end of the last step. -/
theorem mapOutcome_map_bind {γ : Type} (i : Inquiry ε α) (f : α → Inquiry ε β) (g : β → γ) :
    (i >>= f).mapOutcome (·.map g) = i >>= fun a => (f a).mapOutcome (·.map g) := by
  induction i with
  | done outcome => cases outcome <;> rfl
  | note record next ih => exact congrArg (note record) ih
  | ask uri next ih => exact congrArg (ask uri) (funext ih)

/-! ### Fetchers with a memory -/

/-- Answers an inquiry by a fetcher that has a memory, after it was asked for the addresses in
`history`. -/
def runAfter (fetch : RecallingFetch) : (history : List Text) → Inquiry ε α → Run ε α
  | _, done outcome => ⟨[], [], outcome⟩
  | history, note record next =>
    let rest := next.runAfter fetch history
    { rest with noted := record :: rest.noted }
  | history, ask uri next =>
    let rest := (next (fetch history uri)).runAfter fetch (history ++ [uri])
    { rest with asked := uri :: rest.asked }

/-- A run is one with a fetcher that remembers nothing. -/
theorem runAfter_const (fetch : Fetch) (history : List Text) (i : Inquiry ε α) :
    i.runAfter (fun _ => fetch) history = i.run fetch := by
  induction i generalizing history with
  | done outcome => rfl
  | note record next ih => rw [runAfter, ih, run]
  | ask uri next ih => rw [runAfter, ih, run]

/-! ### What is asked for -/

/-- Whatever it is answered, the inquiry asks for the addresses in order; an inquiry that fails may
miss the last ones. -/
inductive Asks : List Text → Inquiry ε α → Prop
  | ok (a : α) : Asks [] (done (.ok a))
  | error (uris : List Text) (fault : ε) : Asks uris (done (.error fault))
  | note {uris : List Text} {record : Log.Record} {next : Inquiry ε α} (h : Asks uris next) :
    Asks uris (note record next)
  | ask {uris : List Text} {uri : Text} {next : Answer → Inquiry ε α}
    (h : ∀ answer, Asks uris (next answer)) : Asks (uri :: uris) (ask uri next)

theorem Asks.done (outcome : Except ε α) : Asks [] (Inquiry.done outcome) := by
  cases outcome with
  | error fault => exact .error [] fault
  | ok a => exact .ok a

theorem Asks.bind {uris uris' : List Text} (h : Asks uris i) {f : α → Inquiry ε β}
    (hf : ∀ a, Asks uris' (f a)) : Asks (uris ++ uris') (i >>= f) := by
  induction h with
  | ok a => exact hf a
  | error uris fault => exact .error _ fault
  | note _ ih => exact .note ih
  | ask _ ih => exact .ask ih

/-- What is made of the outcome does not matter, as long as a fault stays one. -/
theorem Asks.mapOutcome {uris : List Text} (h : Asks uris i) {f : Except ε α → Except ε' β}
    (hf : ∀ fault, ∃ fault', f (.error fault) = .error fault') : Asks uris (i.mapOutcome f) := by
  induction h with
  | ok a => exact .done _
  | error uris fault =>
    obtain ⟨fault', hfault⟩ := hf fault
    rw [Inquiry.mapOutcome, hfault]
    exact .error uris fault'
  | note _ ih => exact .note ih
  | ask _ ih => exact .ask ih

theorem Asks.isPrefix_asked {uris : List Text} (h : Asks uris i) (fetch : RecallingFetch)
    (history : List Text) : (i.runAfter fetch history).asked <+: uris := by
  induction h generalizing history with
  | ok a => exact List.prefix_rfl
  | error uris fault => exact List.nil_prefix
  | note _ ih => exact ih history
  | ask _ ih => exact (List.prefix_cons_inj _).2 (ih _ _)

theorem Asks.asked_eq {uris : List Text} (h : Asks uris i) (fetch : RecallingFetch)
    (history : List Text) (hok : (i.runAfter fetch history).outcome.isOk = true) :
    (i.runAfter fetch history).asked = uris := by
  induction h generalizing history with
  | ok a => rfl
  | error uris fault => cases hok
  | note _ ih => exact ih history hok
  | @ask uris uri next _ ih => exact congrArg (uri :: ·) (ih _ _ hok)

end Inquiry

end ServiceContract
