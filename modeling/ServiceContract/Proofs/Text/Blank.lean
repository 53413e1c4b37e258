import Mathlib.Data.List.DropRight
import ServiceContract.Text.Blank

/-!
# Blanks around a text

Trimming a text leaves what lies between its first and its last character that is not blank, so
trimming again changes nothing (`trim_trim`).  `Padded` is said of a text and of the same text with
blanks around it.  A text is what it trims to with blanks around it (`padded_trim`), and two texts
that are so related trim to one text (`Padded.trim_eq`).
-/

namespace ServiceContract.Text

/-! ### Trimming -/

theorem dropTrailing_eq_rdropWhile (p : CodePoint → Bool) (t : Text) :
    Text.dropTrailing p t = t.rdropWhile p := rfl

/-- Cutting at the end does not bring a blank to the front. -/
theorem dropWhile_trim (t : Text) : t.trim.dropWhile CodePoint.isBlank = t.trim := by
  rw [List.dropWhile_eq_self_iff]
  intro hl
  have hpre : t.trim <+: t.dropWhile CodePoint.isBlank := List.rdropWhile_prefix _ _
  have hl' : 0 < (t.dropWhile CodePoint.isBlank).length := lt_of_lt_of_le hl hpre.length_le
  rw [hpre.getElem hl]
  exact List.dropWhile_get_zero_not _ _ hl'

theorem trim_trim (t : Text) : t.trim.trim = t.trim := by
  rw [trim, dropWhile_trim, dropTrailing_eq_rdropWhile, trim, dropTrailing_eq_rdropWhile,
    List.rdropWhile_idempotent]

theorem trim_of_isEmptyOrBlank {t : Text} (h : t.isEmptyOrBlank = true) : t.trim = [] := by
  have hnil : t.dropWhile CodePoint.isBlank = [] :=
    List.dropWhile_eq_nil_iff.2 fun c hc => List.all_eq_true.1 h c hc
  rw [trim, hnil]
  rfl

theorem trim_eq_self_iff {t : Text} : t.trim = t ↔
    (∀ c ∈ t.head?, c.isBlank = false) ∧ ∀ c ∈ t.getLast?, c.isBlank = false := by
  have hfront : t.dropWhile CodePoint.isBlank = t ↔ ∀ c ∈ t.head?, c.isBlank = false := by
    cases t with
    | nil => simp
    | cons c rest => simp [List.dropWhile_eq_self_iff]
  have hback : t.rdropWhile CodePoint.isBlank = t ↔ ∀ c ∈ t.getLast?, c.isBlank = false := by
    rcases List.eq_nil_or_concat t with rfl | ⟨start, c, rfl⟩
    · simp
    · simp [List.rdropWhile_eq_self_iff]
  rw [← hfront, ← hback]
  constructor
  · intro h
    have hdrop : t.dropWhile CodePoint.isBlank = t := by
      rw [← h]
      exact dropWhile_trim t
    rw [trim, dropTrailing_eq_rdropWhile, hdrop] at h
    exact ⟨hdrop, h⟩
  · rintro ⟨hdrop, hrdrop⟩
    rw [trim, dropTrailing_eq_rdropWhile, hdrop, hrdrop]

theorem trim_between {first last : CodePoint} (hfirst : first.isBlank = false)
    (hlast : last.isBlank = false) (inner : Text) :
    Text.trim (first :: (inner ++ [last])) = first :: (inner ++ [last]) := by
  apply trim_eq_self_iff.2
  constructor
  · simpa using hfirst
  · rw [← List.cons_append, List.getLast?_concat]
    simpa using hlast

/-! ### Padding -/

/-- The text `inner` with blanks around it, or without. -/
def Padded (inner t : Text) : Prop :=
  ∃ before after : Text, before.isEmptyOrBlank = true ∧ after.isEmptyOrBlank = true ∧
    t = before ++ inner ++ after

variable {inner t : Text}

theorem padded_trim (t : Text) : Padded t.trim t := by
  refine ⟨t.takeWhile CodePoint.isBlank,
    (t.dropWhile CodePoint.isBlank).rtakeWhile CodePoint.isBlank,
    List.all_eq_true.2 fun c hc => List.mem_takeWhile_imp hc,
    List.all_eq_true.2 fun c hc => List.mem_rtakeWhile_imp hc, ?_⟩
  rw [trim, dropTrailing_eq_rdropWhile, List.append_assoc, List.rdropWhile_append_rtakeWhile,
    List.takeWhile_append_dropWhile]

theorem dropWhile_blank_append {before : Text} (h : before.isEmptyOrBlank = true) (t : Text) :
    (before ++ t).dropWhile CodePoint.isBlank = t.dropWhile CodePoint.isBlank :=
  List.dropWhile_append_of_pos fun c hc => List.all_eq_true.1 h c hc

theorem rdropWhile_append_blank {after : Text} (h : after.isEmptyOrBlank = true) (t : Text) :
    (t ++ after).rdropWhile CodePoint.isBlank = t.rdropWhile CodePoint.isBlank := by
  unfold List.rdropWhile
  rw [List.reverse_append, List.dropWhile_append_of_pos]
  intro c hc
  exact List.all_eq_true.1 h c (List.mem_reverse.1 hc)

theorem Padded.trim_eq (h : Padded inner t) : t.trim = inner.trim := by
  obtain ⟨before, after, hbefore, hafter, rfl⟩ := h
  unfold trim
  rw [List.append_assoc, dropWhile_blank_append hbefore]
  by_cases hblank : inner.dropWhile CodePoint.isBlank = []
  · -- blanks alone: nothing is left on either side
    have hnil : after.dropWhile CodePoint.isBlank = [] :=
      List.dropWhile_eq_nil_iff.2 fun c hc => List.all_eq_true.1 hafter c hc
    rw [List.dropWhile_append, hblank, hnil]
    rfl
  · rw [List.dropWhile_append, if_neg (by simpa using hblank), dropTrailing_eq_rdropWhile,
      dropTrailing_eq_rdropWhile, rdropWhile_append_blank hafter]

theorem mem_of_mem_trim {c : CodePoint} (h : c ∈ t.trim) : c ∈ t := by
  obtain ⟨before, after, -, -, heq⟩ := padded_trim t
  rw [heq]
  exact List.mem_append_left _ (List.mem_append_right _ h)

/-- Only blanks are lost by trimming. -/
theorem mem_trim_iff {c : CodePoint} (hc : c.isBlank = false) : c ∈ t.trim ↔ c ∈ t := by
  refine ⟨mem_of_mem_trim, fun hmem => ?_⟩
  obtain ⟨before, after, hbefore, hafter, heq⟩ := padded_trim t
  have hnot : ∀ blanks : Text, blanks.isEmptyOrBlank = true → c ∉ blanks := by
    intro blanks hblanks hin
    rw [List.all_eq_true.1 hblanks c hin] at hc
    cases hc
  rw [heq] at hmem
  simpa [hnot before hbefore, hnot after hafter] using hmem

end ServiceContract.Text
