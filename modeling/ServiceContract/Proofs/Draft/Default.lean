import ServiceContract.Draft.OfJson
import ServiceContract.Proofs.Json.Literal

/-!
# Defaults and examples

The text that is kept of a default or an example is JSON for the value that was given exactly when
the value is a boolean or its literal is JSON (`read_defaultOf_iff`).  Inside an array or an object
constants are capitalized, and strings stand between single quotes unless they hold one, so this
excludes most values with either.
-/

namespace ServiceContract.Draft

open Json

variable {members : Members} {key : Text} {v : Value}

/-- What is kept of a default or an example that is no string, null or double and has no doubles in
it is read back as the value exactly when the value is a boolean or its literal is JSON for it. -/
theorem read_defaultOf_iff (hv : members.get? key = some v) (h : v.Readable depthLimit)
    (hfloat : v.Floatless) (hnull : v ≠ .null) (hstring : ∀ s, v ≠ .string s) :
    ∃ t, defaultOf members key = some t ∧
      (read t = .ok v ↔ (∃ b, v = .bool b) ∨ v.LiteralIsJson) := by
  unfold defaultOf
  rw [hv]
  exact read_asDefault_iff h hfloat hnull hstring

/-! ### Two headers -/

/-- A default with a string that holds a single quote. -/
def quotedDefault : Value := .array [.int 1, .string "it's"]

theorem quotedDefault_readable : quotedDefault.Readable depthLimit := by
  have hshort : IsShort 1 := by
    show 1 < 10 ^ Number.digitLimit
    exact Nat.one_lt_pow (by decide) (by decide)
  exact .array (List.forall_mem_cons.2 ⟨.int _ hshort, List.forall_mem_singleton.2 (.string _ _)⟩)

theorem quotedDefault_floatless : quotedDefault.Floatless := by
  have hint : (Value.int 1).Floatless :=
    .intro (by simp) (by simp [Value.items]) (by simp [Value.members])
  have hstring : (Value.string "it's").Floatless :=
    .intro (by simp) (by simp [Value.items]) (by simp [Value.members])
  exact .intro (by simp [quotedDefault])
    (List.forall_mem_cons.2 ⟨hint, List.forall_mem_singleton.2 hstring⟩)
    (by simp [quotedDefault, Value.members])

theorem quotedDefault_literalIsJson : quotedDefault.LiteralIsJson := by
  have hquotes : QuotesAsJson "it's" := {
    single := by decide
    double := by decide
    codes := by unfold ReadsQuoted; decide
    pairs := by unfold PairFree; decide }
  exact .array (List.forall_mem_cons.2 ⟨.int 1, List.forall_mem_singleton.2 (.string hquotes)⟩)

theorem read_quotedDefault :
    defaultOf [("default", quotedDefault)] "default" = some "[1, \"it's\"]" ∧
    read "[1, \"it's\"]" = .ok quotedDefault := by
  have hkept : defaultOf [("default", quotedDefault)] "default" = some "[1, \"it's\"]" := by decide
  have hget : Members.get? [("default", quotedDefault)] "default" = some quotedDefault := rfl
  obtain ⟨t, ht, hiff⟩ := read_defaultOf_iff hget quotedDefault_readable quotedDefault_floatless
    (by simp [quotedDefault]) (by simp [quotedDefault])
  rw [hkept] at ht
  obtain rfl := Option.some.inj ht
  exact ⟨hkept, hiff.2 (Or.inr quotedDefault_literalIsJson)⟩

/-- Not every default is kept as JSON. -/
theorem exists_default_not_json :
    defaultOf [("default", .array [.bool true])] "default" = some "[True]" ∧
    ∀ v, read "[True]" ≠ .ok v := by
  have hkept : defaultOf [("default", .array [.bool true])] "default" = some "[True]" := by decide
  refine ⟨hkept, fun v hread => ?_⟩
  have hnone : (read "[True]").isOk = false := by decide
  rw [hread] at hnone
  cases hnone

end ServiceContract.Draft
