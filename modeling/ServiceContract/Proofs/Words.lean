import ServiceContract.Proofs.UrlKey

/-!
# Where names are cut into words

The words of a name can be found in two passes: first a blank is put between a small letter or a
digit and a capital after it, two characters at a time (`spaced`), then the text is cut at all
that is no ASCII letter or digit (`runs`).  A pair that is taken ends in a capital, and no pair
begins with one, so no place for a blank is missed, and the passes give the words
(`words_eq_runs_spaced`).

The words hold the ASCII letters and digits of the name, each in its place.  Of two that follow
each other there, the second is in the word of the first exactly when nothing stands between them
and no word starts there (`words_cut_at_boundaries`).
-/

namespace ServiceContract

theorem CodePoint.isAlphanum_of_isUpper {c : CodePoint} (h : c.isUpper = true) :
    c.isAlphanum = true := by
  cases c with
  | surrogate index => cases h
  | char c =>
    change c.isUpper = true at h
    change (c.isUpper || c.isLower || c.isDigit) = true
    simp [h]

namespace UrlKey

/-! ### Two passes -/

/-- The text with a blank between a small letter or a digit and a capital, where the two are looked
for from the left and taken in pairs. -/
def spaced : Text → Text
  | c :: d :: rest =>
    if startsWord c d then c :: .char ' ' :: d :: spaced rest else c :: spaced (d :: rest)
  | t => t

/-- The pieces between what is no ASCII letter or digit, without those that are empty. -/
def runs (t : Text) : List Text :=
  (t.splitOnP fun c => !c.isAlphanum).filter (· ≠ [])

theorem startsWord_iff {c d : CodePoint} : startsWord c d = true ↔
    (c.isLower = true ∨ c.isDigit = true) ∧ d.isUpper = true := by
  simp [startsWord]

theorem isAlphanum_of_startsWord {c d : CodePoint} (h : startsWord c d = true) :
    c.isAlphanum = true ∧ d.isAlphanum = true := by
  obtain ⟨hc, hd⟩ := startsWord_iff.1 h
  exact ⟨(CodePoint.of_isLower_or_isDigit hc).1, CodePoint.isAlphanum_of_isUpper hd⟩

theorem startsWord_eq_false {c d : CodePoint}
    (h : c.isAlphanum = false ∨ d.isAlphanum = false) : startsWord c d = false := by
  by_contra hstarts
  have hboth := isAlphanum_of_startsWord (by simpa using hstarts)
  simp [hboth] at h

theorem startsWord_of_isUpper {c : CodePoint} (h : c.isUpper = true) (d : CodePoint) :
    startsWord c d = false := by
  by_contra hstarts
  obtain ⟨hc, -⟩ := startsWord_iff.1 (by simpa using hstarts)
  rw [(CodePoint.of_isLower_or_isDigit hc).2.1] at h
  cases h

/-- No pair that is taken hides another one: the capital in it begins no pair. -/
theorem spaced_cons_of_startsWord {c d : CodePoint} (h : startsWord c d = true) (rest : Text) :
    spaced (c :: d :: rest) = c :: .char ' ' :: spaced (d :: rest) := by
  have hupper : d.isUpper = true := (startsWord_iff.1 h).2
  rw [spaced, if_pos h]
  cases rest with
  | nil => rfl
  | cons e rest => rw [spaced, startsWord_of_isUpper hupper, if_neg Bool.false_ne_true]

theorem spaced_cons_of_not_startsWord {c : CodePoint} {rest : Text}
    (h : ∀ d ∈ rest.head?, startsWord c d = false) : spaced (c :: rest) = c :: spaced rest := by
  cases rest with
  | nil => rfl
  | cons d rest => rw [spaced, h d rfl, if_neg Bool.false_ne_true]

theorem head?_spaced (t : Text) : (spaced t).head? = t.head? := by
  cases t with
  | nil => rfl
  | cons c rest =>
    cases rest with
    | nil => rfl
    | cons d rest =>
      rw [spaced]
      split_ifs <;> rfl

theorem runs_cons {c : CodePoint} (hc : c.isAlphanum = false) (t : Text) :
    runs (c :: t) = runs t := by
  simp [runs, List.splitOnP_cons_eq_if_modifyHead, hc]

theorem splitOnP_cons_of_isAlphanum {c : CodePoint} (hc : c.isAlphanum = true) (t : Text) :
    ((c :: t).splitOnP fun d => !d.isAlphanum) =
      (t.splitOnP fun d => !d.isAlphanum).modifyHead (List.cons c) := by
  simp [List.splitOnP_cons_eq_if_modifyHead, hc]

theorem runs_cons_of_stop {c : CodePoint} (hc : c.isAlphanum = true) {t : Text}
    (h : ∀ d ∈ t.head?, d.isAlphanum = false) : runs (c :: t) = [c] :: runs t := by
  unfold runs
  rw [splitOnP_cons_of_isAlphanum hc]
  cases t with
  | nil => rfl
  | cons d t => simp [List.splitOnP_cons_eq_if_modifyHead, h d rfl]

theorem runs_cons_cons {c d : CodePoint} (hc : c.isAlphanum = true) (hd : d.isAlphanum = true)
    (t : Text) : ∃ word others, runs (d :: t) = word :: others ∧
      runs (c :: d :: t) = (c :: word) :: others := by
  obtain ⟨piece, pieces, hpieces⟩ :=
    List.exists_cons_of_ne_nil (List.splitOnP_ne_nil (fun c => !c.isAlphanum) t)
  refine ⟨d :: piece, pieces.filter (· ≠ []), ?_, ?_⟩
  · rw [runs, splitOnP_cons_of_isAlphanum hd, hpieces]
    simp
  · rw [runs, splitOnP_cons_of_isAlphanum hc, splitOnP_cons_of_isAlphanum hd, hpieces]
    simp

/-- In the two passes, too, a letter or digit that is joined to the rest goes into its first run,
and one that is not is a run of its own. -/
theorem runs_spaced_of_joins {c : CodePoint} {rest : Text} (hc : c.isAlphanum = true)
    (h : joins c rest = true) : ∃ word others, runs (spaced rest) = word :: others ∧
      runs (spaced (c :: rest)) = (c :: word) :: others := by
  obtain ⟨d, after, rfl, hd, hstarts⟩ := exists_cons_of_joins h
  obtain ⟨after', hafter⟩ := List.head?_eq_some_iff.1 (head?_spaced (d :: after))
  have hspaced : spaced (c :: d :: after) = c :: spaced (d :: after) := by
    refine spaced_cons_of_not_startsWord ?_
    rintro _ ⟨⟩
    exact hstarts
  rw [hspaced, hafter]
  exact runs_cons_cons hc hd after'

theorem runs_spaced_of_not_joins {c : CodePoint} {rest : Text} (hc : c.isAlphanum = true)
    (h : joins c rest = false) : runs (spaced (c :: rest)) = [c] :: runs (spaced rest) := by
  by_cases hstop : ∀ d ∈ rest.head?, d.isAlphanum = false
  · have hstarts : ∀ d ∈ rest.head?, startsWord c d = false :=
      fun d hd => startsWord_eq_false (Or.inr (hstop d hd))
    rw [spaced_cons_of_not_startsWord hstarts, runs_cons_of_stop hc (by rwa [head?_spaced])]
  · -- the next one is a letter or digit as well, so a word starts there
    cases rest with
    | nil => exact absurd (by simp) hstop
    | cons d after =>
      have hd : d.isAlphanum = true := by simpa using hstop
      have hstarts : startsWord c d = true := by simpa [joins, hd] using h
      have hblank : CodePoint.isAlphanum ' ' = false := by decide
      rw [spaced_cons_of_startsWord hstarts, runs_cons_of_stop hc, runs_cons hblank]
      rintro _ ⟨⟩
      exact hblank

/-- The words of a name are the runs of letters and digits of the text with blanks in it. -/
theorem words_eq_runs_spaced (t : Text) : words t = runs (spaced t) := by
  induction t with
  | nil => rfl
  | cons c rest ih =>
    by_cases hc : c.isAlphanum = true
    · cases hjoins : joins c rest with
      | true =>
        obtain ⟨word, others, hwords, hcons⟩ := words_cons_of_joins hc hjoins
        obtain ⟨word', others', hruns, hcons'⟩ := runs_spaced_of_joins hc hjoins
        obtain ⟨rfl, rfl⟩ := List.cons.inj ((hwords.symm.trans ih).trans hruns)
        rw [hcons, hcons']
      | false => rw [words_cons_of_not_joins hc hjoins, runs_spaced_of_not_joins hc hjoins, ih]
    · rw [Bool.not_eq_true] at hc
      have hstarts : ∀ d ∈ rest.head?, startsWord c d = false :=
        fun _ _ => startsWord_eq_false (Or.inl hc)
      rw [words_cons hc, spaced_cons_of_not_startsWord hstarts, runs_cons hc, ih]

/-! ### Neighbours -/

section

variable {α : Type}

/-- The elements number `k` and `k + 1` of what some lists make up in a row are in one of them. -/
def Together (lists : List (List α)) (k : Nat) : Prop :=
  ∃ before list after, lists = before ++ list :: after ∧ before.flatten.length ≤ k ∧
    k + 1 < before.flatten.length + list.length

theorem together_cons {list : List α} {lists : List (List α)} {k : Nat} :
    Together (list :: lists) k ↔
      k + 1 < list.length ∨ list.length ≤ k ∧ Together lists (k - list.length) := by
  constructor
  · rintro ⟨before, mid, after, hsplit, hlow, hhigh⟩
    cases before with
    | nil =>
      obtain ⟨rfl, rfl⟩ := List.cons.inj hsplit
      exact Or.inl (by simpa using hhigh)
    | cons first before =>
      obtain ⟨rfl, rfl⟩ := List.cons.inj hsplit
      simp only [List.flatten_cons, List.length_append] at hlow hhigh
      exact Or.inr ⟨by omega, before, mid, after, rfl, by omega, by omega⟩
  · rintro (hlt | ⟨hle, before, mid, after, rfl, hlow, hhigh⟩)
    · exact ⟨[], list, lists, rfl, Nat.zero_le _, by simpa using hlt⟩
    · refine ⟨list :: before, mid, after, rfl, ?_, ?_⟩
      · simp only [List.flatten_cons, List.length_append]
        omega
      · simp only [List.flatten_cons, List.length_append]
        omega

end

/-- A letter or digit in front moves all others by one place. -/
theorem together_words_succ {c : CodePoint} (hc : c.isAlphanum = true) (rest : Text) (k : Nat) :
    Together (words (c :: rest)) (k + 1) ↔ Together (words rest) k := by
  cases hjoins : joins c rest with
  | true =>
    obtain ⟨word, others, hwords, hcons⟩ := words_cons_of_joins hc hjoins
    rw [hwords, hcons, together_cons, together_cons]
    simp
  | false =>
    rw [words_cons_of_not_joins hc hjoins, together_cons]
    simp

/-- It is in one word with the next letter or digit when it is joined to the rest. -/
theorem together_words_zero {c : CodePoint} (hc : c.isAlphanum = true) (rest : Text) :
    Together (words (c :: rest)) 0 ↔ joins c rest = true := by
  cases hjoins : joins c rest with
  | true =>
    obtain ⟨word, others, hwords, hcons⟩ := words_cons_of_joins hc hjoins
    have hne : word ≠ [] := ne_nil_of_mem_words (hwords ▸ List.mem_cons_self)
    rw [hcons, together_cons]
    simpa [List.length_pos_iff] using hne
  | false =>
    rw [words_cons_of_not_joins hc hjoins, together_cons]
    simp

theorem together_words_append {c : CodePoint} (hc : c.isAlphanum = true) (before rest : Text) :
    Together (words (before ++ c :: rest)) (before.filter CodePoint.isAlphanum).length ↔
      joins c rest = true := by
  induction before with
  | nil => exact together_words_zero hc rest
  | cons a before ih =>
    rw [List.cons_append]
    by_cases ha : a.isAlphanum = true
    · rw [List.filter_cons_of_pos ha, List.length_cons, together_words_succ ha, ih]
    · rw [List.filter_cons_of_neg ha, words_cons (by simpa using ha), ih]

theorem joins_append_cons_iff {c d : CodePoint} {gap : Text} (hd : d.isAlphanum = true)
    (hgap : ∀ a ∈ gap, a.isAlphanum = false) (after : Text) :
    joins c (gap ++ d :: after) = true ↔
      gap = [] ∧ ¬ ((c.isLower = true ∨ c.isDigit = true) ∧ d.isUpper = true) := by
  rw [← startsWord_iff]
  cases gap with
  | nil =>
    rw [List.nil_append, joins, hd]
    simp
  | cons a gap =>
    rw [List.cons_append, joins, hgap a List.mem_cons_self]
    simp

/-- The words of a name are what the two passes give.  None of them is empty, and in a row they are
the ASCII letters and digits of the name.  Two of these that follow each other are in one word
exactly when they stand side by side in the name and are not a small letter or a digit before a
capital. -/
theorem words_cut_at_boundaries (t : Text) :
    words t = runs (spaced t) ∧
    (∀ word ∈ words t, word ≠ []) ∧
    (words t).flatten = t.filter CodePoint.isAlphanum ∧
    ∀ before c gap d after, t = before ++ c :: (gap ++ d :: after) →
      c.isAlphanum = true → d.isAlphanum = true → (∀ a ∈ gap, a.isAlphanum = false) →
      (Together (words t) (before.filter CodePoint.isAlphanum).length ↔
        gap = [] ∧ ¬ ((c.isLower = true ∨ c.isDigit = true) ∧ d.isUpper = true)) := by
  refine ⟨words_eq_runs_spaced t, fun _ => ne_nil_of_mem_words, flatten_words t, ?_⟩
  rintro before c gap d after rfl hc hd hgap
  rw [together_words_append hc, joins_append_cons_iff hd hgap]

/-- A capital between a digit and a small letter, and an accented letter between two capitals. -/
theorem words_cut_mixedName :
    ("a1Bc DÉE" : Text) = ("a1Bc " : Text) ++ .char 'D' :: (("É" : Text) ++ [.char 'E']) ∧
    words "a1Bc DÉE" = (["a1", "Bc", "D", "E"] : List Text) ∧
    (Together (words "a1Bc DÉE") 1 ↔ ([] : Text) = [] ∧
      ¬ ((CodePoint.isLower '1' = true ∨ CodePoint.isDigit '1' = true) ∧
        CodePoint.isUpper 'B' = true)) ∧
    (Together (words "a1Bc DÉE") 2 ↔ ([] : Text) = [] ∧
      ¬ ((CodePoint.isLower 'B' = true ∨ CodePoint.isDigit 'B' = true) ∧
        CodePoint.isUpper 'c' = true)) ∧
    (Together (words "a1Bc DÉE") 4 ↔ ("É" : Text) = [] ∧
      ¬ ((CodePoint.isLower 'D' = true ∨ CodePoint.isDigit 'D' = true) ∧
        CodePoint.isUpper 'E' = true)) := by
  obtain ⟨-, -, -, hneighbours⟩ := words_cut_at_boundaries "a1Bc DÉE"
  refine ⟨by decide, by decide, ?_, ?_, ?_⟩
  · exact hneighbours "a" '1' [] 'B' "c DÉE" (by decide) (by decide) (by decide) (by decide)
  · exact hneighbours "a1" 'B' [] 'c' " DÉE" (by decide) (by decide) (by decide) (by decide)
  · exact hneighbours "a1Bc " 'D' "É" 'E' [] (by decide) (by decide) (by decide) (by decide)

end UrlKey

end ServiceContract
