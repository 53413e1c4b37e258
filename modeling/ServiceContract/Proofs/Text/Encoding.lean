import Mathlib.Data.List.TakeWhile
import ServiceContract.Text.ControlSequence
import ServiceContract.Text.Encoding

/-!
# Texts as they are written

A text without surrogates is written as it is (`ofString_escapeSurrogates`), and one without escape
characters has no control sequences to take out (`withoutControlSequences_eq_self`).
-/

namespace ServiceContract.Text

theorem faultExcept?_eq_none_iff {p : CodePoint → Bool} {t : Text} :
    t.faultExcept? p = none ↔ ∀ c ∈ t, c.isSurrogate = true → p c = true := by
  have hclass : ∀ c : CodePoint, (!c.isSurrogate || p c) = true ↔
      (c.isSurrogate = true → p c = true) := by
    intro c
    cases c.isSurrogate <;> simp
  unfold faultExcept?
  split
  · rename_i h
    simp only [true_iff]
    intro c hc
    exact (hclass c).1 (List.dropWhile_eq_nil_iff.1 h c hc)
  · rename_i first rest h
    have hne : t.dropWhile (fun c => !c.isSurrogate || p c) ≠ [] := by
      rw [h]
      exact List.cons_ne_nil _ _
    have hfirst : (!first.isSurrogate || p first) = false := by
      simpa only [h, List.head_cons] using
        List.head_dropWhile_not (fun c : CodePoint => !c.isSurrogate || p c) hne
    have hmem : first ∈ t := (List.dropWhile_suffix _).subset (h ▸ List.mem_cons_self)
    simp only [reduceCtorEq, false_iff]
    intro hall
    rw [(hclass first).2 (hall first hmem)] at hfirst
    cases hfirst

theorem encodeFault?_eq_none_iff {t : Text} :
    t.encodeFault? = none ↔ ∀ c ∈ t, c.isSurrogate = false := by
  unfold encodeFault?
  rw [faultExcept?_eq_none_iff]
  simp only [Bool.false_eq_true, imp_false, Bool.not_eq_true]

theorem ofString_escapeSurrogates {t : Text} (h : ∀ c ∈ t, c.isSurrogate = false) :
    ofString t.escapeSurrogates = t := by
  unfold escapeSurrogates ofString
  rw [String.toList_join, List.flatMap_map]
  induction t with
  | nil => rfl
  | cons c t ih =>
    obtain ⟨hc, ht⟩ := List.forall_mem_cons.1 h
    cases c with
    | surrogate => cases hc
    | char c =>
      have hchar : c.toString.toList = [c] := String.toList_singleton c
      rw [List.flatMap_cons, List.map_append, ih ht]
      dsimp only
      rw [hchar]
      rfl

theorem dropSequences_eq_self {t : Text} (h : .char '\x1b' ∉ t) (fuel : Nat) :
    dropSequences fuel t = t := by
  induction t generalizing fuel with
  | nil => cases fuel <;> rfl
  | cons c t ih =>
    cases fuel with
    | zero => rfl
    | succ fuel =>
      have hc : c ≠ '\x1b' := fun hc => h (hc ▸ List.mem_cons_self)
      have hafter : afterSequence? (c :: t) = none := by
        unfold afterSequence?
        split
        · rename_i heq
          exact absurd (List.cons.inj heq).1 hc
        · rfl
      rw [dropSequences, hafter]
      dsimp only
      rw [ih (fun hmem => h (List.mem_cons_of_mem c hmem))]

theorem withoutControlSequences_eq_self {t : Text} (h : .char '\x1b' ∉ t) :
    t.withoutControlSequences = t :=
  dropSequences_eq_self h t.length

end ServiceContract.Text
