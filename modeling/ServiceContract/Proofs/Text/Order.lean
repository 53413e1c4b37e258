import Mathlib.Data.List.Lex
import Mathlib.Data.List.Nodup
import ServiceContract.Text.Order

/-!
# Texts in order

The order of texts is strict and total, since code points are told apart by their numbers.  So
`Text.duplicates` has each repeated text once and in ascending order, and nothing else
(`isRepeats_duplicates`); it is empty when no text is repeated (`duplicates_eq_nil_iff`).
-/

namespace ServiceContract

/-! ### The order -/

theorem CodePoint.toNat_injective : Function.Injective CodePoint.toNat := by
  intro c d h
  cases c with
  | char c =>
    cases d with
    | char d => rw [Char.toNat_inj.1 h]
    | surrogate j =>
      -- characters keep out of the range of surrogates
      have hc : c.toNat = 0xD800 + j := h
      have hj := j.isLt
      rcases c.valid with hv | hv
      · have hlt : c.toNat < 0xD800 := hv
        omega
      · have hlt : 0xDFFF < c.toNat := hv.1
        omega
  | surrogate i =>
    have hi := i.isLt
    cases d with
    | char d =>
      have hd : 0xD800 + i = d.toNat := h
      rcases d.valid with hv | hv
      · have hlt : d.toNat < 0xD800 := hv
        omega
      · have hlt : 0xDFFF < d.toNat := hv.1
        omega
    | surrogate j =>
      have hij : 0xD800 + (i : Nat) = 0xD800 + j := h
      rw [Fin.ext (Nat.add_left_cancel hij)]

instance : Trans (α := CodePoint) (· < ·) (· < ·) (· < ·) := ⟨Nat.lt_trans⟩

instance : Std.Irrefl (α := CodePoint) (· < ·) := ⟨fun c => Nat.lt_irrefl c.toNat⟩

instance : Std.Trichotomous (α := CodePoint) (· < ·) :=
  ⟨fun _ _ h h' => CodePoint.toNat_injective (Nat.le_antisymm (Nat.not_lt.1 h') (Nat.not_lt.1 h))⟩

namespace Text

theorem lt_of_not_lt {t u : Text} (h : ¬ u < t) (hne : t ≠ u) : t < u := by
  by_contra hlt
  exact hne (Std.Trichotomous.trichotomous (r := List.Lex (α := CodePoint) (· < ·)) t u hlt h)

/-! ### Sorting -/

theorem insertSorted_perm (t : Text) (texts : List Text) :
    (insertSorted t texts).Perm (t :: texts) := by
  induction texts with
  | nil => exact List.Perm.refl _
  | cons u rest ih =>
    unfold insertSorted
    split
    · exact (ih.cons u).trans (List.Perm.swap t u rest)
    · exact List.Perm.refl _

theorem sorted_perm (texts : List Text) : (sorted texts).Perm texts := by
  induction texts with
  | nil => exact List.Perm.refl _
  | cons t rest ih => exact (insertSorted_perm t (sorted rest)).trans (ih.cons t)

theorem insertSorted_pairwise {t : Text} {texts : List Text} (h : texts.Pairwise (· < ·))
    (ht : t ∉ texts) : (insertSorted t texts).Pairwise (· < ·) := by
  induction texts with
  | nil => exact List.pairwise_singleton _ t
  | cons u rest ih =>
    obtain ⟨hu, hrest⟩ := List.pairwise_cons.1 h
    obtain ⟨hne, hnot⟩ := List.ne_and_not_mem_of_not_mem_cons ht
    unfold insertSorted
    split
    · rename_i hut
      refine List.pairwise_cons.2 ⟨fun v hv => ?_, ih hrest hnot⟩
      rcases List.mem_cons.1 ((insertSorted_perm t rest).mem_iff.1 hv) with rfl | hv
      · exact hut
      · exact hu v hv
    · rename_i hut
      have htu : t < u := lt_of_not_lt hut hne
      refine List.pairwise_cons.2 ⟨fun v hv => ?_, h⟩
      rcases List.mem_cons.1 hv with rfl | hv
      · exact htu
      · exact List.lt_trans htu (hu v hv)

/-- Texts that are all different are sorted strictly. -/
theorem sorted_pairwise {texts : List Text} (h : texts.Nodup) :
    (sorted texts).Pairwise (· < ·) := by
  induction texts with
  | nil => exact List.Pairwise.nil
  | cons t rest ih =>
    obtain ⟨ht, hrest⟩ := List.nodup_cons.1 h
    exact insertSorted_pairwise (ih hrest) fun hmem => ht ((sorted_perm rest).mem_iff.1 hmem)

/-! ### Repeated texts -/

theorem nodup_eraseDups : ∀ texts : List Text, texts.eraseDups.Nodup
  | [] => List.nodup_nil
  | t :: rest => by
    rw [List.eraseDups_cons, List.nodup_cons, List.mem_eraseDups]
    exact ⟨by simp, nodup_eraseDups _⟩
termination_by texts => texts.length
decreasing_by exact Nat.lt_succ_of_le (List.length_filter_le _ _)

/-- Texts that a filter keeps stay in the order of their first places. -/
theorem idxOf_filter_lt_iff {p : Text → Bool} {texts : List Text} {t u : Text} (ht : p t)
    (hu : p u) : (texts.filter p).idxOf t < (texts.filter p).idxOf u ↔
      texts.idxOf t < texts.idxOf u := by
  induction texts with
  | nil => simp
  | cons v rest ih =>
    by_cases hv : p v
    · rw [List.filter_cons_of_pos hv, List.idxOf_cons, List.idxOf_cons, List.idxOf_cons,
        List.idxOf_cons]
      cases v == t <;> cases v == u <;> simp [ih]
    · have hvt : (v == t) = false := beq_false_of_ne fun h => hv (h ▸ ht)
      have hvu : (v == u) = false := beq_false_of_ne fun h => hv (h ▸ hu)
      rw [List.filter_cons_of_neg hv, ih, List.idxOf_cons, List.idxOf_cons, hvt, hvu]
      simp

/-- The texts that are left stand in the order of their first places. -/
theorem eraseDups_pairwise_idxOf : ∀ texts : List Text,
    texts.eraseDups.Pairwise fun t u => texts.idxOf t < texts.idxOf u
  | [] => List.Pairwise.nil
  | t :: rest => by
    rw [List.eraseDups_cons, List.pairwise_cons]
    have hkept : ∀ u ∈ (rest.filter fun u => !u == t).eraseDups, (!u == t) = true :=
      fun u hu => (List.mem_filter.1 (List.mem_eraseDups.1 hu)).2
    have hafter : ∀ u ∈ (rest.filter fun u => !u == t).eraseDups,
        (t :: rest).idxOf u = rest.idxOf u + 1 := by
      intro u hu
      have hne : u ≠ t := by simpa using hkept u hu
      exact List.idxOf_cons_ne _ hne.symm
    constructor
    · intro u hu
      rw [List.idxOf_cons_self, hafter u hu]
      exact Nat.succ_pos _
    · refine (eraseDups_pairwise_idxOf (rest.filter fun u => !u == t)).imp_of_mem ?_
      intro u v hu hv huv
      rw [hafter u hu, hafter v hv, Nat.add_lt_add_iff_right]
      exact (idxOf_filter_lt_iff (hkept u hu) (hkept v hv)).1 huv
termination_by texts => texts.length
decreasing_by exact Nat.lt_succ_of_le (List.length_filter_le _ _)

/-- What a filter keeps is kept once if it is left once before. -/
theorem eraseDups_filter (p : Text → Bool) : ∀ texts : List Text,
    (texts.filter p).eraseDups = texts.eraseDups.filter p
  | [] => rfl
  | t :: rest => by
    have ih := eraseDups_filter p (rest.filter fun u => !u == t)
    rw [List.filter_filter] at ih
    rw [List.eraseDups_cons]
    by_cases ht : p t
    · rw [List.filter_cons_of_pos ht, List.filter_cons_of_pos ht, List.eraseDups_cons, ← ih,
        List.filter_filter]
      simp only [Bool.and_comm]
    · -- `t` is not kept, so it is not among the rest that is
      have hkept : (rest.filter fun u => p u && !u == t) = rest.filter p := by
        refine List.filter_congr fun u _ => ?_
        by_cases hu : u = t
        · simp [hu, ht]
        · simp [hu]
      rw [List.filter_cons_of_neg ht, List.filter_cons_of_neg ht, ← ih, hkept]
termination_by texts => texts.length
decreasing_by exact Nat.lt_succ_of_le (List.length_filter_le _ _)

/-- Of two lists in a row, those of the second are left that are not in the first. -/
theorem eraseDups_append (texts texts' : List Text) : (texts ++ texts').eraseDups =
    texts.eraseDups ++ texts'.eraseDups.filter (· ∉ texts.eraseDups) := by
  rw [List.eraseDups_append, List.removeAll, eraseDups_filter]
  congr 2
  funext t
  rw [Bool.eq_iff_iff]
  simp [List.mem_eraseDups]

theorem eraseDups_perm {texts texts' : List Text} (h : texts.Perm texts') :
    texts.eraseDups.Perm texts'.eraseDups := by
  rw [List.perm_ext_iff_of_nodup (nodup_eraseDups texts) (nodup_eraseDups texts')]
  intro t
  rw [List.mem_eraseDups, List.mem_eraseDups, h.mem_iff]

theorem filter_repeated_perm {texts texts' : List Text} (h : texts.Perm texts') :
    (texts.eraseDups.filter fun t => 1 < texts.count t).Perm
      (texts'.eraseDups.filter fun t => 1 < texts'.count t) := by
  simp only [h.count_eq]
  exact (eraseDups_perm h).filter _

theorem filter_repeated_eq_nil_iff {texts : List Text} :
    (texts.eraseDups.filter fun t => 1 < texts.count t) = [] ↔ texts.Nodup := by
  rw [List.nodup_iff_count_le_one, List.filter_eq_nil_iff]
  constructor
  · intro h t
    by_cases ht : t ∈ texts
    · simpa using h t (List.mem_eraseDups.2 ht)
    · rw [List.count_eq_zero_of_not_mem ht]
      exact Nat.zero_le 1
  · intro h t _
    simpa using h t

theorem duplicates_eq_nil_iff {texts : List Text} : duplicates texts = [] ↔ texts.Nodup := by
  rw [← filter_repeated_eq_nil_iff]
  have hperm := sorted_perm (texts.eraseDups.filter fun t => 1 < texts.count t)
  constructor
  · intro h
    rw [← duplicates, h] at hperm
    exact hperm.symm.eq_nil
  · intro h
    rw [h] at hperm
    rw [duplicates, h, hperm.eq_nil]

/-- `repeats` has each text that occurs more than once in `texts`, once and in ascending order. -/
def IsRepeats (texts repeats : List Text) : Prop :=
  repeats.Pairwise (· < ·) ∧ ∀ t, t ∈ repeats ↔ 1 < texts.count t

theorem isRepeats_duplicates (texts : List Text) : IsRepeats texts (duplicates texts) := by
  refine ⟨sorted_pairwise ((nodup_eraseDups texts).filter _), fun t => ?_⟩
  rw [duplicates, (sorted_perm _).mem_iff, List.mem_filter, List.mem_eraseDups, decide_eq_true_iff]
  refine ⟨And.right, fun h => ⟨?_, h⟩⟩
  exact List.count_pos_iff.1 (Nat.lt_trans Nat.zero_lt_one h)

end Text

end ServiceContract
