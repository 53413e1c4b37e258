import Mathlib.Data.List.Basic
import ServiceContract.UrlKey

/-!
# The form of url keys

The words of a name are none empty, and in a row they are the ASCII letters and digits of the name
(`flatten_words`).  So the url key of a name that has one of these is made of runs of small letters
and digits with single hyphens between them (`wellFormed_generate_iff`), and that of any other name
is empty (`wellFormed_generate_or_eq_nil`).  Words never run over a character that is no letter or
digit (`words_append_cons`), so a key of this form is its own url key, and no other text is
(`generate_eq_self_iff`).
-/

namespace ServiceContract

theorem Char.isLower_toLower_of_isUpper {c : Char} (h : c.isUpper = true) :
    c.toLower.isLower = true := by
  have hrange := of_decide_eq_true h
  have hlower : c.toLower = _ := dif_pos hrange
  simp only [ge_iff_le, UInt32.le_iff_toNat_le] at hrange
  change 65 ≤ c.val.toNat ∧ c.val.toNat ≤ 90 at hrange
  rw [hlower]
  refine Bool.and_eq_true_iff.2 ⟨decide_eq_true ?_, decide_eq_true ?_⟩
  · change 97 ≤ (c.val.toNat + 32) % 2 ^ 32
    omega
  · change (c.val.toNat + 32) % 2 ^ 32 ≤ 122
    omega

theorem Char.toLower_eq_self {c : Char} (h : c.isUpper = false) : c.toLower = c := by
  refine dif_neg fun hrange => ?_
  have hupper : c.isUpper = true := decide_eq_true hrange
  rw [h] at hupper
  cases hupper

theorem Char.toNat_of_isLower {c : Char} (h : c.isLower = true) :
    97 ≤ c.val.toNat ∧ c.val.toNat ≤ 122 := by
  obtain ⟨hfirst, hlast⟩ := Bool.and_eq_true_iff.1 h
  exact ⟨of_decide_eq_true hfirst, of_decide_eq_true hlast⟩

theorem Char.toNat_of_isDigit {c : Char} (h : c.isDigit = true) :
    48 ≤ c.val.toNat ∧ c.val.toNat ≤ 57 := by
  obtain ⟨hfirst, hlast⟩ := Bool.and_eq_true_iff.1 h
  exact ⟨of_decide_eq_true hfirst, of_decide_eq_true hlast⟩

theorem Char.isUpper_eq_false {c : Char} (h : c.isLower = true ∨ c.isDigit = true) :
    c.isUpper = false := by
  have hrange := h.imp Char.toNat_of_isLower Char.toNat_of_isDigit
  apply decide_eq_false
  rintro ⟨hfirst, hlast⟩
  change 65 ≤ c.val.toNat at hfirst
  change c.val.toNat ≤ 90 at hlast
  omega

theorem CodePoint.toLower_of_isAlphanum {c : CodePoint} (h : c.isAlphanum = true) :
    c.toLower.isLower = true ∨ c.toLower.isDigit = true := by
  cases c with
  | surrogate index => cases h
  | char c =>
    by_cases hc : c.isUpper = true
    · exact Or.inl (Char.isLower_toLower_of_isUpper hc)
    · have hcases : (c.isUpper || c.isLower || c.isDigit) = true := h
      rw [Bool.not_eq_true] at hc
      rw [CodePoint.toLower, Char.toLower_eq_self hc]
      change c.isLower = true ∨ c.isDigit = true
      simpa [hc] using hcases

/-- Small letters and digits belong to words, start none, and are written as they are. -/
theorem CodePoint.of_isLower_or_isDigit {c : CodePoint} (h : c.isLower = true ∨ c.isDigit = true) :
    c.isAlphanum = true ∧ c.isUpper = false ∧ c.toLower = c := by
  cases c with
  | surrogate index => exact absurd h (by simp [CodePoint.isLower, CodePoint.isDigit, satisfies])
  | char c =>
    change c.isLower = true ∨ c.isDigit = true at h
    have hupper := Char.isUpper_eq_false h
    refine ⟨?_, hupper, congrArg CodePoint.char (Char.toLower_eq_self hupper)⟩
    change (c.isUpper || c.isLower || c.isDigit) = true
    simpa [hupper] using h

namespace UrlKey

/-- Small ASCII letters and digits, at least one. -/
def IsRun (t : Text) : Prop := t ≠ [] ∧ ∀ c ∈ t, c.isLower = true ∨ c.isDigit = true

/-- One run, or a run, a hyphen and a text that is well formed itself. -/
inductive WellFormed : Text → Prop
  | run {t : Text} (h : IsRun t) : WellFormed t
  | hyphen {t rest : Text} (h : IsRun t) (hrest : WellFormed rest) :
    WellFormed (t ++ .char '-' :: rest)

theorem WellFormed.ne_nil {t : Text} (h : WellFormed t) : t ≠ [] := by
  cases h with
  | run h => exact h.1
  | hyphen h _ => exact fun hnil => h.1 (List.append_eq_nil_iff.1 hnil).1

theorem wellFormed_join {runs : List Text} (hne : runs ≠ []) (h : ∀ run ∈ runs, IsRun run) :
    WellFormed (Text.join "-" runs) := by
  induction runs with
  | nil => exact absurd rfl hne
  | cons run rest ih =>
    obtain ⟨hrun, hrest⟩ := List.forall_mem_cons.1 h
    by_cases hnil : rest = []
    · rw [hnil, Text.join, List.intercalate_singleton]
      exact .run hrun
    · rw [Text.join, List.intercalate_cons_of_ne_nil hnil, List.append_assoc]
      exact .hyphen hrun (ih hnil hrest)

/-! ### Words -/

theorem words_cons {c : CodePoint} (hc : c.isAlphanum = false) (t : Text) :
    words (c :: t) = words t := by
  rw [words, if_neg (by simp [hc])]

theorem exists_cons_of_joins {c : CodePoint} {rest : Text} (h : joins c rest = true) :
    ∃ d after, rest = d :: after ∧ d.isAlphanum = true ∧ startsWord c d = false := by
  cases rest with
  | nil => cases h
  | cons d after =>
    obtain ⟨hd, hstarts⟩ := Bool.and_eq_true_iff.1 h
    exact ⟨d, after, rfl, hd, by simpa using hstarts⟩

theorem exists_words_eq_cons {c : CodePoint} (hc : c.isAlphanum = true) (rest : Text) :
    ∃ word others, words (c :: rest) = word :: others := by
  rw [words, if_pos hc]
  cases words rest with
  | nil => exact ⟨[c], [], rfl⟩
  | cons word others =>
    dsimp only
    split
    · exact ⟨c :: word, others, rfl⟩
    · exact ⟨[c], word :: others, rfl⟩

/-- A letter or digit that is joined to the rest goes into the first word of it. -/
theorem words_cons_of_joins {c : CodePoint} {rest : Text} (hc : c.isAlphanum = true)
    (h : joins c rest = true) : ∃ word others, words rest = word :: others ∧
      words (c :: rest) = (c :: word) :: others := by
  obtain ⟨d, after, rfl, hd, -⟩ := exists_cons_of_joins h
  obtain ⟨word, others, hwords⟩ := exists_words_eq_cons hd after
  refine ⟨word, others, hwords, ?_⟩
  rw [words, if_pos hc, hwords]
  dsimp only
  rw [if_pos h]

/-- One that is not joined to it is a word of its own. -/
theorem words_cons_of_not_joins {c : CodePoint} {rest : Text} (hc : c.isAlphanum = true)
    (h : joins c rest = false) : words (c :: rest) = [c] :: words rest := by
  rw [words, if_pos hc]
  cases words rest with
  | nil => rfl
  | cons word others =>
    dsimp only
    rw [h, if_neg Bool.false_ne_true]

theorem ne_nil_of_mem_words {t word : Text} (h : word ∈ words t) : word ≠ [] := by
  induction t generalizing word with
  | nil => cases h
  | cons c rest ih =>
    by_cases hc : c.isAlphanum = true
    · cases hjoins : joins c rest with
      | true =>
        obtain ⟨first, others, hrest, hcons⟩ := words_cons_of_joins hc hjoins
        rw [hcons] at h
        rw [hrest] at ih
        rcases List.mem_cons.1 h with rfl | h
        · exact List.cons_ne_nil c first
        · exact ih (List.mem_cons_of_mem first h)
      | false =>
        rw [words_cons_of_not_joins hc hjoins] at h
        rcases List.mem_cons.1 h with rfl | h
        · exact List.cons_ne_nil c []
        · exact ih h
    · rw [words_cons (by simpa using hc)] at h
      exact ih h

/-- The words of a text are its ASCII letters and digits, in order. -/
theorem flatten_words (t : Text) : (words t).flatten = t.filter CodePoint.isAlphanum := by
  induction t with
  | nil => rfl
  | cons c rest ih =>
    by_cases hc : c.isAlphanum = true
    · rw [List.filter_cons_of_pos hc, ← ih]
      cases hjoins : joins c rest with
      | true =>
        obtain ⟨first, others, hrest, hcons⟩ := words_cons_of_joins hc hjoins
        rw [hcons, hrest]
        rfl
      | false => rw [words_cons_of_not_joins hc hjoins, List.flatten_cons, List.singleton_append]
    · rw [words_cons (by simpa using hc), List.filter_cons_of_neg hc, ih]

theorem isRun_of_mem_words {t word : Text} (h : word ∈ words t) : IsRun word.toLower := by
  refine ⟨?_, fun c hc => ?_⟩
  · rw [Text.toLower, ne_eq, List.map_eq_nil_iff]
    exact ne_nil_of_mem_words h
  · obtain ⟨d, hd, rfl⟩ := List.mem_map.1 hc
    have hmem : d ∈ t.filter CodePoint.isAlphanum := by
      rw [← flatten_words]
      exact List.mem_flatten_of_mem h hd
    exact CodePoint.toLower_of_isAlphanum (List.mem_filter.1 hmem).2

theorem words_eq_nil_iff {t : Text} : words t = [] ↔ ∀ c ∈ t, c.isAlphanum = false := by
  have hflatten : words t = [] ↔ (words t).flatten = [] := by
    rw [List.flatten_eq_nil_iff, List.eq_nil_iff_forall_not_mem]
    exact forall_congr' fun word => ⟨fun h hmem => absurd hmem h,
      fun h hmem => ne_nil_of_mem_words hmem (h hmem)⟩
  rw [hflatten, flatten_words, List.filter_eq_nil_iff]
  simp only [Bool.not_eq_true]

/-- Words do not run over a character that is no letter or digit. -/
theorem words_append_cons {c : CodePoint} (hc : c.isAlphanum = false) (t rest : Text) :
    words (t ++ c :: rest) = words t ++ words rest := by
  induction t with
  | nil => exact words_cons hc rest
  | cons a t ih =>
    have hjoins : joins a (t ++ c :: rest) = joins a t := by
      cases t with
      | nil => simp [joins, hc]
      | cons d t => rfl
    rw [List.cons_append]
    by_cases ha : a.isAlphanum = true
    · cases htail : joins a t with
      | true =>
        obtain ⟨word, others, hwords, hcons⟩ := words_cons_of_joins ha htail
        obtain ⟨word', others', hwords', hcons'⟩ :=
          words_cons_of_joins ha (hjoins.trans htail)
        rw [ih, hwords, List.cons_append] at hwords'
        obtain ⟨rfl, rfl⟩ := List.cons.inj hwords'
        rw [hcons', hcons, List.cons_append]
      | false =>
        rw [words_cons_of_not_joins ha (hjoins.trans htail), words_cons_of_not_joins ha htail, ih,
          List.cons_append]
    · rw [Bool.not_eq_true] at ha
      rw [words_cons ha, words_cons ha, ih]

theorem words_of_isRun {t : Text} (h : IsRun t) : words t = [t] := by
  obtain ⟨hne, hall⟩ := h
  induction t with
  | nil => exact absurd rfl hne
  | cons c t ih =>
    obtain ⟨hc, hrest⟩ := List.forall_mem_cons.1 hall
    have halphanum := (CodePoint.of_isLower_or_isDigit hc).1
    cases t with
    | nil => exact words_cons_of_not_joins halphanum rfl
    | cons d t =>
      obtain ⟨hd, hupper, -⟩ := CodePoint.of_isLower_or_isDigit (List.forall_mem_cons.1 hrest).1
      have hjoins : joins c (d :: t) = true := by simp [joins, startsWord, hd, hupper]
      obtain ⟨word, others, hwords, hcons⟩ := words_cons_of_joins halphanum hjoins
      rw [ih (List.cons_ne_nil d t) hrest] at hwords
      obtain ⟨rfl, rfl⟩ := List.cons.inj hwords
      exact hcons

theorem toLower_of_isRun {t : Text} (h : IsRun t) : t.toLower = t := by
  unfold Text.toLower
  conv_rhs => rw [← List.map_id t]
  exact List.map_congr_left fun c hc => (CodePoint.of_isLower_or_isDigit (h.2 c hc)).2.2

/-! ### Keys -/

theorem wellFormed_of_words_ne_nil {t : Text} (h : words t ≠ []) : WellFormed (generate t) := by
  refine wellFormed_join (by rwa [ne_eq, List.map_eq_nil_iff]) fun run hrun => ?_
  obtain ⟨word, hword, rfl⟩ := List.mem_map.1 hrun
  exact isRun_of_mem_words hword

theorem generate_of_words_eq_nil {t : Text} (h : words t = []) : generate t = [] := by
  rw [generate, h]
  rfl

/-- The url key of a name has the form of one, or the name has no words. -/
theorem wellFormed_generate_or_eq_nil (t : Text) :
    WellFormed (generate t) ∨ generate t = [] := by
  by_cases h : words t = []
  · exact Or.inr (generate_of_words_eq_nil h)
  · exact Or.inl (wellFormed_of_words_ne_nil h)

theorem wellFormed_generate_iff {t : Text} :
    WellFormed (generate t) ↔ ∃ c ∈ t, c.isAlphanum = true := by
  constructor
  · intro h
    by_contra! hnone
    refine h.ne_nil (generate_of_words_eq_nil (words_eq_nil_iff.2 fun c hc => ?_))
    simpa using hnone c hc
  · rintro ⟨c, hc, halphanum⟩
    refine wellFormed_of_words_ne_nil fun hnil => ?_
    rw [words_eq_nil_iff.1 hnil c hc] at halphanum
    cases halphanum

/-! ### Texts that are their own keys -/

theorem generate_of_isRun {t : Text} (h : IsRun t) : generate t = t := by
  rw [generate, words_of_isRun h, List.map_singleton, toLower_of_isRun h, Text.join,
    List.intercalate_singleton]

theorem generate_append_hyphen {t rest : Text} (h : IsRun t) (hrest : words rest ≠ []) :
    generate (t ++ .char '-' :: rest) = t ++ .char '-' :: generate rest := by
  have hmap : (words rest).map Text.toLower ≠ [] := by rwa [ne_eq, List.map_eq_nil_iff]
  rw [generate, words_append_cons (by decide), words_of_isRun h, List.singleton_append,
    List.map_cons, toLower_of_isRun h, Text.join, List.intercalate_cons_of_ne_nil hmap,
    List.append_assoc]
  rfl

theorem generate_of_wellFormed {t : Text} (h : WellFormed t) : generate t = t := by
  induction h with
  | run h => exact generate_of_isRun h
  | @hyphen t rest h hrest ih =>
    have hwords : words rest ≠ [] := by
      intro hnil
      rw [generate_of_words_eq_nil hnil] at ih
      exact hrest.ne_nil ih.symm
    rw [generate_append_hyphen h hwords, ih]

/-- The texts that are their own url keys are those that have the form of one, and the empty
text. -/
theorem generate_eq_self_iff {t : Text} : generate t = t ↔ WellFormed t ∨ t = [] := by
  constructor
  · intro h
    have hform := wellFormed_generate_or_eq_nil t
    rwa [h] at hform
  · rintro (h | rfl)
    · exact generate_of_wellFormed h
    · rfl

theorem generate_generate (t : Text) : generate (generate t) = generate t :=
  generate_eq_self_iff.2 (wellFormed_generate_or_eq_nil t)

end UrlKey

end ServiceContract
