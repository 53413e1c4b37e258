import ServiceContract.Proofs.UrlKey
import ServiceContract.Rule.Declaration

/-!
# The rule for keys

Making a url key is a projection: its values are the empty text and the texts that have the form of
a key, and these are their own keys.  So the rule accepts the keys of this form and no others, and
what it proposes in place of another key it accepts (`keys_projected`).
-/

namespace ServiceContract

namespace Rule

variable {d : Draft}

theorem key_eq_nil_iff :
    key d = [] ↔ ∀ k, d.key = some k → UrlKey.WellFormed k ∨ k = [] := by
  unfold key
  cases d.key with
  | none => simp
  | some k => simp [← UrlKey.generate_eq_self_iff]

/-- A key that is not accepted is answered by its url key. -/
theorem key_cases (d : Draft) :
    key d = [] ∨ ∃ k, d.key = some k ∧ key d = [invalidKey k] := by
  unfold key
  cases d.key with
  | none => exact Or.inl rfl
  | some k =>
    dsimp only
    split_ifs
    · exact Or.inl rfl
    · exact Or.inr ⟨k, rfl, rfl⟩

end Rule

/-- Url keys are empty or have the form of a key, those that do are the texts that are their own
url keys, and a key of a key is that key.  The rule accepts exactly the drafts whose key, if any,
is one of these, and the key that its message proposes is one. -/
theorem keys_projected :
    (∀ t, UrlKey.WellFormed (UrlKey.generate t) ∨ UrlKey.generate t = []) ∧
    (∀ k, UrlKey.generate k = k ↔ UrlKey.WellFormed k ∨ k = []) ∧
    (∀ t, UrlKey.generate (UrlKey.generate t) = UrlKey.generate t) ∧
    (∀ d, Rule.key d = [] ↔ ∀ k, d.key = some k → UrlKey.WellFormed k ∨ k = []) ∧
    ∀ d, Rule.key d = [] ∨ ∃ proposed : Text,
      Rule.key d = ["Invalid url key. A valid key would be " ++ proposed] ∧
      Rule.key { d with key := some proposed } = [] := by
  refine ⟨UrlKey.wellFormed_generate_or_eq_nil, fun k => UrlKey.generate_eq_self_iff,
    UrlKey.generate_generate, fun d => Rule.key_eq_nil_iff, fun d => ?_⟩
  obtain hnil | ⟨k, -, hmessage⟩ := Rule.key_cases d
  · exact Or.inl hnil
  · refine Or.inr ⟨UrlKey.generate k, hmessage, Rule.key_eq_nil_iff.2 ?_⟩
    rintro _ ⟨⟩
    exact UrlKey.wellFormed_generate_or_eq_nil k

end ServiceContract
