import ServiceContract.Text.Pieces

/-!
# Pieces and what they are put together to

Cutting a list at the separators and putting separators between lists undo each other
(`intercalate_pieces`, `pieces_intercalate`).  What is said about the pieces of a list is therefore
proved about lists of lists with separators between them: which elements they have, what becomes of
them element by element, and that dropping some of the lists only drops elements.
-/

namespace ServiceContract.Text

/-! ### Where a class of elements stops -/

section

variable {α : Type} {p : α → Bool} {xs ys : List α}

theorem takeWhile_append_stop (hxs : ∀ x ∈ xs, p x = true) (hys : ∀ y ∈ ys.head?, p y = false) :
    (xs ++ ys).takeWhile p = xs := by
  rw [List.takeWhile_append_of_pos hxs]
  cases ys with
  | nil => simp
  | cons y ys => simp [hys y rfl]

theorem dropWhile_append_stop (hxs : ∀ x ∈ xs, p x = true) (hys : ∀ y ∈ ys.head?, p y = false) :
    (xs ++ ys).dropWhile p = ys := by
  rw [List.dropWhile_append_of_pos hxs]
  cases ys with
  | nil => rfl
  | cons y ys => simp [hys y rfl]

end

/-! ### Cutting -/

section

variable {α : Type} [DecidableEq α]

theorem pieces_eq_splitOn (separator : α) (xs : List α) :
    pieces separator xs = xs.splitOn separator := by
  induction xs with
  | nil => rw [pieces, List.splitOn_nil]
  | cons x xs ih =>
    rw [pieces, List.splitOn_cons_eq_if_modifyHead, ih]
    by_cases hx : x = separator
    · rw [if_pos hx, if_pos (beq_iff_eq.2 hx)]
    · rw [if_neg hx, if_neg (by simpa using hx)]
      cases hp : xs.splitOn separator with
      | nil => exact absurd hp (List.splitOn_ne_nil separator xs)
      | cons piece others => rfl

theorem pieces_ne_nil (separator : α) (xs : List α) : pieces separator xs ≠ [] := by
  rw [pieces_eq_splitOn]
  exact List.splitOn_ne_nil separator xs

/-- Pieces with separators between them make up the list that they are cut from. -/
theorem intercalate_pieces (separator : α) (xs : List α) :
    [separator].intercalate (pieces separator xs) = xs := by
  rw [pieces_eq_splitOn]
  exact List.intercalate_splitOn separator

theorem pieces_intercalate {separator : α} {names : List (List α)} (hne : names ≠ [])
    (h : ∀ name ∈ names, separator ∉ name) :
    pieces separator ([separator].intercalate names) = names := by
  rw [pieces_eq_splitOn]
  exact List.splitOn_intercalate separator h hne

theorem not_mem_of_mem_pieces {separator : α} {xs piece : List α}
    (h : piece ∈ pieces separator xs) : separator ∉ piece := by
  induction xs generalizing piece with
  | nil =>
    rw [pieces, List.mem_singleton] at h
    rw [h]
    exact List.not_mem_nil
  | cons x xs ih =>
    rw [pieces] at h
    split at h
    · rcases List.mem_cons.1 h with rfl | h
      · exact List.not_mem_nil
      · exact ih h
    · rename_i hx
      split at h
      · rename_i first others hfirst
        rcases List.mem_cons.1 h with rfl | h
        · have := ih (hfirst ▸ List.mem_cons_self)
          exact fun hmem => (List.mem_cons.1 hmem).elim (fun heq => hx heq.symm) this
        · exact ih (hfirst ▸ List.mem_cons_of_mem first h)
      · rename_i hnil
        exact absurd hnil (pieces_ne_nil separator xs)

/-! ### The first separator -/

theorem takeWhile_bne_append {separator : α} {xs ys : List α} (hxs : separator ∉ xs)
    (hys : ys = [] ∨ ys.head? = some separator) :
    (xs ++ ys).takeWhile (· != separator) = xs := by
  refine takeWhile_append_stop (fun x hx => ?_) fun y hy => ?_
  · simpa using fun heq : x = separator => hxs (heq ▸ hx)
  · rcases hys with rfl | hhead
    · cases hy
    · rw [hhead] at hy
      cases hy
      exact bne_self_eq_false separator

theorem takeWhile_bne_of_not_mem {separator : α} {xs : List α} (h : separator ∉ xs) :
    xs.takeWhile (· != separator) = xs := by
  have happend := takeWhile_bne_append h (Or.inl rfl)
  rwa [List.append_nil] at happend

theorem exists_append_of_separator (separator : α) (zs : List α) :
    ∃ xs ys, zs = xs ++ ys ∧ separator ∉ xs ∧ (ys = [] ∨ ys.head? = some separator) := by
  induction zs with
  | nil => exact ⟨[], [], rfl, List.not_mem_nil, Or.inl rfl⟩
  | cons z zs ih =>
    by_cases hz : z = separator
    · exact ⟨[], z :: zs, rfl, List.not_mem_nil, Or.inr (congrArg some hz)⟩
    · obtain ⟨xs, ys, rfl, hxs, hys⟩ := ih
      refine ⟨z :: xs, ys, rfl, ?_, hys⟩
      exact fun hmem => (List.mem_cons.1 hmem).elim (fun heq => hz heq.symm) hxs

end

/-! ### Putting together -/

variable {α β : Type}

theorem mem_intercalate_iff {separator : List α} {names : List (List α)} {a : α}
    (ha : a ∉ separator) : a ∈ separator.intercalate names ↔ ∃ name ∈ names, a ∈ name := by
  induction names with
  | nil => simp [List.intercalate_nil]
  | cons name rest ih =>
    by_cases hrest : rest = []
    · simp [hrest, List.intercalate_singleton]
    · simp [List.intercalate_cons_of_ne_nil hrest, ih, ha]

theorem flatMap_intercalate (f : α → List β) (separator : List α) (names : List (List α)) :
    (separator.intercalate names).flatMap f =
      (separator.flatMap f).intercalate (names.map (·.flatMap f)) := by
  induction names with
  | nil => rfl
  | cons name rest ih =>
    by_cases hrest : rest = []
    · simp only [hrest, List.intercalate_singleton, List.map_cons, List.map_nil]
    · have hmap : rest.map (·.flatMap f) ≠ [] := fun h => hrest (List.map_eq_nil_iff.1 h)
      rw [List.intercalate_cons_of_ne_nil hrest, List.flatMap_append, List.flatMap_append, ih,
        List.map_cons, List.intercalate_cons_of_ne_nil hmap]

theorem intercalate_sublist (separator : List α) {names names' : List (List α)}
    (h : names.Sublist names') :
    (separator.intercalate names).Sublist (separator.intercalate names') := by
  induction h with
  | slnil => exact List.Sublist.refl _
  | @cons names rest name h ih =>
    by_cases hrest : rest = []
    · rw [hrest] at h
      rw [List.sublist_nil.1 h]
      exact List.nil_sublist _
    · rw [List.intercalate_cons_of_ne_nil hrest]
      exact ih.trans (List.sublist_append_right _ _)
  | @cons_cons names rest name h ih =>
    by_cases hnames : names = []
    · rw [hnames, List.intercalate_singleton]
      by_cases hrest : rest = []
      · simp only [hrest, List.intercalate_singleton, List.Sublist.refl]
      · rw [List.intercalate_cons_of_ne_nil hrest, List.append_assoc]
        exact List.sublist_append_left _ _
    · have hrest : rest ≠ [] := fun hnil => hnames (List.sublist_nil.1 (hnil ▸ h))
      rw [List.intercalate_cons_of_ne_nil hnames, List.intercalate_cons_of_ne_nil hrest]
      exact (List.Sublist.refl _).append ih

end ServiceContract.Text
