import ServiceContract.Proofs.Path
import ServiceContract.Proofs.Text.Pieces

/-!
# Where placeholders stand in a path

A placeholder is known from the text that it begins: a colon, a name and no word character after
it, or a name in braces (`BeginsWith`).  The scan reads a path in one pass and never goes back, yet
a colon or a brace is no part of a name, so nothing that begins inside of a placeholder is one:
what the scan finds is what stands at the positions of the path, one after the other
(`occurrences_eq_filterMap`).  Each name is kept once, in the order of the first positions
(`placeholders_by_position`).
-/

namespace ServiceContract.Path

/-- Word characters, at least one. -/
def IsName (t : Text) : Prop := t ≠ [] ∧ ∀ c ∈ t, c.isWord = true

/-- The text begins with a placeholder of the name, written in one of the two ways. -/
inductive BeginsWith (name : Text) : Text → Prop
  | colon {rest : Text} (h : ∀ c ∈ rest.head?, c.isWord = false) :
    BeginsWith name (.char ':' :: (name ++ rest))
  | braces (rest : Text) : BeginsWith name (.char '\x7b' :: (name ++ .char '\x7d' :: rest))

/-! ### The placeholder at a position -/

/-- The name of the placeholder that a text begins with. -/
def nameAt? : Text → Option Text
  | [] => none
  | c :: rest =>
    let name := rest.takeWhile CodePoint.isWord
    let isClosed := (rest.dropWhile CodePoint.isWord).head? = some (.char '\x7d')
    if name ≠ [] ∧ (c = ':' ∨ c = '\x7b' ∧ isClosed) then some name else none

theorem isName_takeWhile {t : Text} (h : t.takeWhile CodePoint.isWord ≠ []) :
    IsName (t.takeWhile CodePoint.isWord) :=
  ⟨h, fun _ hc => List.mem_takeWhile_imp hc⟩

theorem isWord_head_dropWhile (t : Text) :
    ∀ c ∈ (t.dropWhile CodePoint.isWord).head?, c.isWord = false := by
  intro c hc
  have hnot := List.head?_dropWhile_not CodePoint.isWord t
  rw [hc] at hnot
  simpa using hnot

theorem beginsWith_of_nameAt? {name t : Text} (h : nameAt? t = some name) :
    IsName name ∧ BeginsWith name t := by
  cases t with
  | nil => cases h
  | cons c rest =>
    have hrest : rest = rest.takeWhile CodePoint.isWord ++ rest.dropWhile CodePoint.isWord :=
      List.takeWhile_append_dropWhile.symm
    obtain ⟨⟨hne, hopens⟩, hname⟩ := Option.ite_none_right_eq_some.1 h
    obtain rfl := Option.some.inj hname
    refine ⟨isName_takeWhile hne, ?_⟩
    conv => rhs; rw [hrest]
    rcases hopens with rfl | ⟨rfl, hclosed⟩
    · exact .colon (isWord_head_dropWhile rest)
    · obtain ⟨after, hafter⟩ := List.head?_eq_some_iff.1 hclosed
      rw [hafter]
      exact .braces after

theorem nameAt?_of_beginsWith {name t : Text} (hname : IsName name) (h : BeginsWith name t) :
    nameAt? t = some name := by
  obtain ⟨hne, hword⟩ := hname
  cases h with
  | @colon rest hrest =>
    simp [nameAt?, Text.takeWhile_append_stop hword hrest, hne]
  | braces rest =>
    have hstop : ∀ c ∈ (CodePoint.char '\x7d' :: rest).head?, c.isWord = false := by
      rintro _ ⟨⟩
      decide
    simp [nameAt?, Text.takeWhile_append_stop hword hstop, Text.dropWhile_append_stop hword hstop,
      hne]

theorem nameAt?_eq_some_iff {name t : Text} :
    nameAt? t = some name ↔ IsName name ∧ BeginsWith name t :=
  ⟨beginsWith_of_nameAt?, fun h => nameAt?_of_beginsWith h.1 h.2⟩

/-! ### The scan -/

theorem scan_colon_cons (name : Text) (c : CodePoint) (rest : Text) :
    scan (.colon name) (c :: rest) =
      if c.isWord then scan (.colon (name ++ [c])) rest
      else named name ++ scan (Open.after c) rest := by
  rw [scan]

theorem scan_brace_cons (name : Text) (c : CodePoint) (rest : Text) :
    scan (.brace name) (c :: rest) =
      if c.isWord then scan (.brace (name ++ [c])) rest
      else if c = '\x7d' then named name ++ scan .none rest
      else scan (Open.after c) rest := by
  rw [scan]

/-- A word character opens no placeholder. -/
theorem after_of_isWord {c : CodePoint} (h : c.isWord = true) : Open.after c = .none := by
  have hcolon : c ≠ ':' := by
    rintro rfl
    exact absurd h (by decide)
  have hbrace : c ≠ '\x7b' := by
    rintro rfl
    exact absurd h (by decide)
  rw [Open.after, if_neg hcolon, if_neg hbrace]

theorem scan_none_cons (c : CodePoint) (rest : Text) :
    scan .none (c :: rest) = scan (Open.after c) rest := by
  rw [scan]

theorem scan_none_cons_of_isWord {c : CodePoint} (h : c.isWord = true) (rest : Text) :
    scan .none (c :: rest) = scan .none rest := by
  rw [scan_none_cons, after_of_isWord h]

/-- What follows an open placeholder is scanned as if none were open. -/
theorem scan_colon (name t : Text) :
    scan (.colon name) t = named (name ++ t.takeWhile CodePoint.isWord) ++ scan .none t := by
  induction t generalizing name with
  | nil => simp [scan]
  | cons c rest ih =>
    rw [scan_colon_cons]
    by_cases hc : c.isWord = true
    · rw [if_pos hc, ih, List.takeWhile_cons_of_pos hc, scan_none_cons_of_isWord hc]
      simp
    · rw [if_neg hc, List.takeWhile_cons_of_neg hc, List.append_nil, scan_none_cons]

theorem scan_brace (name t : Text) : scan (.brace name) t =
    (if (t.dropWhile CodePoint.isWord).head? = some (.char '\x7d') then
      named (name ++ t.takeWhile CodePoint.isWord) else []) ++ scan .none t := by
  induction t generalizing name with
  | nil => simp [scan]
  | cons c rest ih =>
    rw [scan_brace_cons]
    by_cases hc : c.isWord = true
    · rw [if_pos hc, ih, List.takeWhile_cons_of_pos hc, List.dropWhile_cons_of_pos hc,
        scan_none_cons_of_isWord hc]
      simp
    · rw [if_neg hc, List.takeWhile_cons_of_neg hc, List.dropWhile_cons_of_neg hc, List.append_nil,
        scan_none_cons, List.head?_cons]
      by_cases hclose : c = '\x7d'
      · have hafter : Open.after '\x7d' = .none := by decide
        rw [if_pos hclose, hclose, if_pos rfl, hafter]
      · rw [if_neg hclose, if_neg (by simpa using hclose), List.nil_append]

/-- The scan finds the placeholder that stands at the first position, and then those of the rest:
none of these is hidden by the first one. -/
theorem scan_cons (c : CodePoint) (rest : Text) :
    scan .none (c :: rest) = (nameAt? (c :: rest)).toList ++ scan .none rest := by
  have hnamed (name : Text) : named name = (if name ≠ [] then some name else none).toList := by
    cases name <;> rfl
  rw [scan_none_cons, Open.after, nameAt?]
  by_cases hcolon : c = ':'
  · rw [if_pos hcolon, scan_colon, List.nil_append, hnamed]
    simp [hcolon]
  · rw [if_neg hcolon]
    by_cases hbrace : c = '\x7b'
    · rw [if_pos hbrace, scan_brace, List.nil_append, hnamed]
      by_cases hclosed : (rest.dropWhile CodePoint.isWord).head? = some (.char '\x7d')
      · simp [hbrace, hclosed]
      · simp [hbrace, hclosed]
    · rw [if_neg hbrace]
      simp [hcolon, hbrace]

/-- The placeholders of a path occur at its positions, each where a text begins with it. -/
theorem occurrences_eq_filterMap (path : Text) :
    occurrences path = (List.range path.length).filterMap fun i => nameAt? (path.drop i) := by
  unfold occurrences
  induction path with
  | nil => rfl
  | cons c rest ih =>
    have hrest : (List.range rest.length).filterMap (fun i => nameAt? (rest.drop i)) =
        ((List.range rest.length).map Nat.succ).filterMap fun i => nameAt? ((c :: rest).drop i) := by
      rw [List.filterMap_map]
      rfl
    rw [scan_cons, ih, hrest, List.length_cons, List.range_succ_eq_map, List.filterMap_cons,
      List.drop_zero]
    cases nameAt? (c :: rest) <;> rfl

/-! ### First positions -/

/-- What is found along a list, each text kept once, stands in the order of the first elements that
it is found at. -/
theorem eraseDups_filterMap_pairwise {α : Type} {r : α → α → Prop} (f : α → Option Text)
    {xs : List α} (h : xs.Pairwise r) : (xs.filterMap f).eraseDups.Pairwise fun t u =>
      ∀ y ∈ xs, f y = some u → ∃ x ∈ xs, r x y ∧ f x = some t := by
  induction h with
  | nil => exact List.Pairwise.nil
  | @cons x xs hx _ ih =>
    have hlater : (xs.filterMap f).eraseDups.Pairwise fun t u => f x ≠ some u →
        ∀ y ∈ x :: xs, f y = some u → ∃ x' ∈ x :: xs, r x' y ∧ f x' = some t := by
      refine ih.imp fun {t u} htu hne y hy hyu => ?_
      have hmem : y ∈ xs := (List.mem_cons.1 hy).resolve_left fun heq => hne (heq ▸ hyu)
      obtain ⟨x', hx', hrel, hfound⟩ := htu y hmem hyu
      exact ⟨x', List.mem_cons_of_mem x hx', hrel, hfound⟩
    cases hfx : f x with
    | none =>
      rw [List.filterMap_cons_none hfx]
      exact hlater.imp fun h => h (by simp [hfx])
    | some t =>
      rw [List.filterMap_cons_some hfx, List.eraseDups_cons, Text.eraseDups_filter,
        List.pairwise_cons]
      have hother : ∀ u ∈ (xs.filterMap f).eraseDups.filter fun u => !u == t, u ≠ t := by
        intro u hu
        simpa using (List.mem_filter.1 hu).2
      constructor
      · intro u hu y hy hyu
        have hmem : y ∈ xs := (List.mem_cons.1 hy).resolve_left fun heq => by
          rw [heq, hfx] at hyu
          exact hother u hu (Option.some.inj hyu).symm
        exact ⟨x, List.mem_cons_self, hx y hmem, hfx⟩
      · refine (hlater.sublist List.filter_sublist).imp_of_mem fun {u v} _ hv h => h ?_
        rw [hfx]
        exact fun heq => hother v hv (Option.some.inj heq).symm

theorem lt_length_of_nameAt? {path name : Text} {i : Nat} (h : nameAt? (path.drop i) = some name) :
    i < path.length := by
  by_contra hle
  rw [List.drop_of_length_le (Nat.not_lt.1 hle)] at h
  cases h

theorem mem_placeholders_iff {path x : Text} :
    x ∈ placeholders path ↔ ∃ i, nameAt? (path.drop i) = some x := by
  have hoccurrences := occurrences_eq_filterMap path
  unfold occurrences at hoccurrences
  rw [placeholders, List.mem_eraseDups, hoccurrences, List.mem_filterMap]
  constructor
  · rintro ⟨i, -, h⟩
    exact ⟨i, h⟩
  · rintro ⟨i, h⟩
    exact ⟨i, List.mem_range.2 (lt_length_of_nameAt? h), h⟩

theorem placeholders_pairwise_position (path : Text) : (placeholders path).Pairwise fun x y =>
    ∀ j, nameAt? (path.drop j) = some y → ∃ i < j, nameAt? (path.drop i) = some x := by
  have hfirst := eraseDups_filterMap_pairwise (fun i => nameAt? (path.drop i))
    (List.pairwise_lt_range (n := path.length))
  rw [← occurrences_eq_filterMap] at hfirst
  refine hfirst.imp fun {x y} h j hj => ?_
  obtain ⟨i, -, hlt, hi⟩ := h j (List.mem_range.2 (lt_length_of_nameAt? hj)) hj
  exact ⟨i, hlt, hi⟩

/-- The placeholders of a path are all different and stand in the order of their first positions.
They are the names that a placeholder is written of at some position of the path, whatever comes
before it. -/
theorem placeholders_by_position (path : Text) :
    (placeholders path).Nodup ∧
    ((placeholders path).Pairwise fun x y =>
      ∀ j, BeginsWith y (path.drop j) → ∃ i < j, BeginsWith x (path.drop i)) ∧
    ∀ x, x ∈ placeholders path ↔
      IsName x ∧ ∃ before rest, path = before ++ rest ∧ BeginsWith x rest := by
  refine ⟨Text.nodup_eraseDups _, ?_, fun x => ?_⟩
  · refine (placeholders_pairwise_position path).imp_of_mem fun {x y} _ hy h j hj => ?_
    obtain ⟨k, hk⟩ := mem_placeholders_iff.1 hy
    have hname : IsName y := (nameAt?_eq_some_iff.1 hk).1
    obtain ⟨i, hlt, hi⟩ := h j (nameAt?_eq_some_iff.2 ⟨hname, hj⟩)
    exact ⟨i, hlt, (nameAt?_eq_some_iff.1 hi).2⟩
  · rw [mem_placeholders_iff]
    constructor
    · rintro ⟨i, hi⟩
      obtain ⟨hname, hbegins⟩ := nameAt?_eq_some_iff.1 hi
      exact ⟨hname, path.take i, path.drop i, (List.take_append_drop i path).symm, hbegins⟩
    · rintro ⟨hname, before, rest, rfl, hbegins⟩
      refine ⟨before.length, nameAt?_eq_some_iff.2 ⟨hname, ?_⟩⟩
      rwa [List.drop_left]

end ServiceContract.Path
