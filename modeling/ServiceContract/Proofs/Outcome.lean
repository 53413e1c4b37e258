import Mathlib.Data.List.Perm.Basic

/-!
# Steps that can fail

A computation that takes steps in a row succeeds when each of its steps does (`bind_eq_ok_iff`),
and fails at the first one that does not.  For a traversal of a list this reads: it yields `ys`
exactly when the step takes each element of `xs` to the element of `ys` in the same place
(`mapM_eq_ok_iff`), and it fails exactly when the step fails at some element
(`mapM_isOk_iff`).  `Both` compares two computations step by step.
-/

namespace ServiceContract.Outcome

section

variable {ε ε' α β : Type}

theorem bind_eq_ok_iff {x : Except ε α} {f : α → Except ε β} {b : β} :
    x >>= f = .ok b ↔ ∃ a, x = .ok a ∧ f a = .ok b := by
  cases x <;> simp [bind, Except.bind]

theorem pure_eq_ok_iff {a b : α} : (pure a : Except ε α) = .ok b ↔ b = a := by
  simp [pure, Except.pure, eq_comm]

theorem map_eq_ok_iff {x : Except ε α} {f : α → β} {b : β} :
    x.map f = .ok b ↔ ∃ a, x = .ok a ∧ b = f a := by
  cases x <;> simp [Except.map, eq_comm]

theorem mapError_eq_ok_iff {x : Except ε α} {f : ε → ε'} {a : α} :
    x.mapError f = .ok a ↔ x = .ok a := by
  cases x <;> simp [Except.mapError]

theorem map_of_bind {γ : Type} (x : Except ε α) (f : α → Except ε β) (g : β → γ) :
    (x >>= f).map g = x >>= fun a => (f a).map g := by
  cases x <;> rfl

theorem mapError_map (x : Except ε α) (f : α → β) (g : ε → ε') :
    (x.map f).mapError g = (x.mapError g).map f := by
  cases x <;> rfl

/-! ### Success alone -/

@[simp] theorem isOk_ok (a : α) : (.ok a : Except ε α).isOk = true := rfl

@[simp] theorem isOk_error (e : ε) : (.error e : Except ε α).isOk = false := rfl

theorem isOk_iff {x : Except ε α} : x.isOk = true ↔ ∃ a, x = .ok a := by
  cases x <;> simp

theorem isOk_eq_false_iff {x : Except ε α} : x.isOk = false ↔ ∃ e, x = .error e := by
  cases x <;> simp

theorem isOk_pure (a : α) : (pure a : Except ε α).isOk = true := rfl

theorem isOk_map (x : Except ε α) (f : α → β) : (x.map f).isOk = x.isOk := by
  cases x <;> rfl

theorem isOk_mapError (x : Except ε α) (f : ε → ε') : (x.mapError f).isOk = x.isOk := by
  cases x <;> rfl

theorem isOk_bind_iff {x : Except ε α} {f : α → Except ε β} :
    (x >>= f).isOk = true ↔ ∃ a, x = .ok a ∧ (f a).isOk = true := by
  cases x <;> simp [bind, Except.bind, isOk_iff]

/-- Steps whose success does not depend on what the first one yields. -/
theorem isOk_bind_const_iff {x : Except ε α} {f : α → Except ε β} {p : Prop}
    (hf : ∀ a, (f a).isOk = true ↔ p) : (x >>= f).isOk = true ↔ x.isOk = true ∧ p := by
  rw [isOk_bind_iff, isOk_iff]
  simp only [hf]
  constructor
  · rintro ⟨a, ha, hp⟩
    exact ⟨⟨a, ha⟩, hp⟩
  · rintro ⟨⟨a, ha⟩, hp⟩
    exact ⟨a, ha, hp⟩

/-- A step that is followed by no further one that can fail. -/
theorem isOk_bind_pure {x : Except ε α} {g : α → β} :
    (x >>= fun a => (pure (g a) : Except ε β)).isOk = x.isOk := by
  cases x <;> rfl

/-! ### Traversals -/

variable {f : α → Except ε β}

theorem mapM_eq_ok_iff {xs : List α} {ys : List β} :
    xs.mapM f = .ok ys ↔ List.Forall₂ (fun x y => f x = .ok y) xs ys := by
  induction xs generalizing ys with
  | nil => rw [List.mapM_nil, pure_eq_ok_iff, List.forall₂_nil_left_iff]
  | cons x xs ih =>
    simp only [List.mapM_cons, bind_eq_ok_iff, pure_eq_ok_iff, ih, List.forall₂_cons_left_iff]
    constructor
    · rintro ⟨y, hy, ys', hys, rfl⟩
      exact ⟨y, ys', hy, hys, rfl⟩
    · rintro ⟨y, ys', hy, hys, rfl⟩
      exact ⟨y, hy, ys', hys, rfl⟩

/-- A traversal whose step does not fail on the list. -/
theorem mapM_eq_ok_map {xs : List α} {g : α → β} (h : ∀ x ∈ xs, f x = .ok (g x)) :
    xs.mapM f = .ok (xs.map g) := by
  rw [mapM_eq_ok_iff, List.forall₂_map_right_iff, List.forall₂_same]
  exact h

theorem mapM_isOk_iff {xs : List α} :
    (xs.mapM f).isOk = true ↔ ∀ x ∈ xs, (f x).isOk = true := by
  induction xs with
  | nil => simp [isOk_pure]
  | cons x xs ih =>
    rw [List.mapM_cons, isOk_bind_const_iff (p := ∀ x' ∈ xs, (f x').isOk = true)]
    · simp
    · intro y
      rw [isOk_bind_pure, ih]

theorem mapM_isOk_eq_false_iff {xs : List α} :
    (xs.mapM f).isOk = false ↔ ∃ x ∈ xs, (f x).isOk = false := by
  rw [← Bool.not_eq_true, mapM_isOk_iff]
  simp only [not_forall, Bool.not_eq_true, exists_prop]

/-- A traversal whose results are put together without a fault. -/
theorem mapM_return_isOk_iff {γ : Type} {xs : List α} {g : List β → γ} :
    (do let ys ← xs.mapM f
        return g ys : Except ε γ).isOk = true ↔ ∀ x ∈ xs, (f x).isOk = true := by
  rw [isOk_bind_pure, mapM_isOk_iff]

theorem option_mapM_eq_ok_iff {x : Option α} {y : Option β} :
    x.mapM f = Except.ok y ↔
      (x = none ∧ y = none) ∨ ∃ a b, x = some a ∧ y = some b ∧ f a = .ok b := by
  cases x with
  | none => simp [Option.mapM_none, pure_eq_ok_iff]
  | some a =>
    rw [Option.mapM_some]
    cases h : f a <;> simp [Functor.map, Except.map, eq_comm, h]

theorem option_mapM_isOk_iff {x : Option α} :
    (x.mapM f : Except ε (Option β)).isOk = true ↔ ∀ a ∈ x, (f a).isOk = true := by
  cases x with
  | none => simp [Option.mapM_none, isOk_pure]
  | some a =>
    rw [Option.mapM_some]
    cases h : f a <;> simp [Functor.map, Except.map, h]

/-- What a traversal yields comes from the elements of the list. -/
theorem exists_of_mem_mapM {xs : List α} {ys : List β} (h : xs.mapM f = .ok ys) {y : β}
    (hy : y ∈ ys) : ∃ x ∈ xs, f x = .ok y := by
  have hxy := mapM_eq_ok_iff.1 h
  clear h
  induction hxy with
  | nil => simp at hy
  | cons hx _ ih =>
    rcases List.mem_cons.1 hy with rfl | hy
    · exact ⟨_, by simp, hx⟩
    · obtain ⟨x, hx, hfx⟩ := ih hy
      exact ⟨x, by simp [hx], hfx⟩

/-- Every element of a traversed list has its result. -/
theorem exists_result_of_mem_mapM {xs : List α} {ys : List β} (h : xs.mapM f = .ok ys) {x : α}
    (hx : x ∈ xs) : ∃ y ∈ ys, f x = .ok y := by
  have hxy := mapM_eq_ok_iff.1 h
  clear h
  induction hxy with
  | nil => simp at hx
  | cons hy _ ih =>
    rcases List.mem_cons.1 hx with rfl | hx
    · exact ⟨_, by simp, hy⟩
    · obtain ⟨y, hy, hfy⟩ := ih hx
      exact ⟨y, by simp [hy], hfy⟩

theorem mapM_nil_eq_ok_iff {ys : List β} : ([] : List α).mapM f = .ok ys ↔ ys = [] := by
  rw [mapM_eq_ok_iff, List.forall₂_nil_left_iff]

theorem mapM_singleton_eq_ok_iff {x : α} {ys : List β} :
    [x].mapM f = .ok ys ↔ ∃ y, f x = .ok y ∧ ys = [y] := by
  simp only [mapM_eq_ok_iff, List.forall₂_cons_left_iff, List.forall₂_nil_left_iff]
  constructor
  · rintro ⟨y, _, hy, rfl, rfl⟩
    exact ⟨y, hy, rfl⟩
  · rintro ⟨y, hy, rfl⟩
    exact ⟨y, [], hy, rfl, rfl⟩

theorem mapM_append_eq_ok {xs xs' : List α} {ys ys' : List β} (h : xs.mapM f = .ok ys)
    (h' : xs'.mapM f = .ok ys') : (xs ++ xs').mapM f = .ok (ys ++ ys') :=
  mapM_eq_ok_iff.2 (List.rel_append (mapM_eq_ok_iff.1 h) (mapM_eq_ok_iff.1 h'))

theorem mapM_ne_nil {xs : List α} {ys : List β} (h : xs.mapM f = .ok ys) (hne : xs ≠ []) :
    ys ≠ [] := by
  rintro rfl
  exact hne (List.forall₂_nil_right_iff.1 (mapM_eq_ok_iff.1 h))

/-- A statement about all results of a traversal, as one about the elements of the list. -/
theorem forall_mem_mapM_iff {xs : List α} {ys : List β} {p : α → Prop} {q : β → Prop}
    (h : xs.mapM f = .ok ys) (hpq : ∀ x y, f x = .ok y → (q y ↔ p x)) :
    (∀ y ∈ ys, q y) ↔ ∀ x ∈ xs, p x := by
  constructor
  · intro hq x hx
    obtain ⟨y, hy, hfx⟩ := exists_result_of_mem_mapM h hx
    exact (hpq x y hfx).1 (hq y hy)
  · intro hp y hy
    obtain ⟨x, hx, hfx⟩ := exists_of_mem_mapM h hy
    exact (hpq x y hfx).2 (hp x hx)

/-- A traversal relates each element of the list to its result, in the same place. -/
theorem forall₂_of_mapM {xs : List α} {ys : List β} {r : α → β → Prop} (h : xs.mapM f = .ok ys)
    (hr : ∀ x ∈ xs, ∀ y, f x = .ok y → r x y) : List.Forall₂ r xs ys := by
  have hxy := mapM_eq_ok_iff.1 h
  clear h
  induction hxy with
  | nil => exact .nil
  | cons hx _ ih =>
    refine .cons (hr _ List.mem_cons_self _ hx) (ih fun x hmem => ?_)
    exact hr x (List.mem_cons_of_mem _ hmem)

/-- A traversal of what each element is turned into. -/
theorem forall₂_of_map_mapM {γ : Type} {g : γ → α} {xs : List γ} {ys : List β}
    {r : γ → β → Prop} (h : (xs.map g).mapM f = .ok ys)
    (hr : ∀ x ∈ xs, ∀ y, f (g x) = .ok y → r x y) : List.Forall₂ r xs ys := by
  rw [List.mapM_map] at h
  exact forall₂_of_mapM h hr

/-- Two traversals in a row relate each element of the list to what becomes of its result. -/
theorem forall₂_of_mapM_mapM {γ : Type} {g : β → Except ε' γ} {xs : List α} {ys : List β}
    {zs : List γ} {r : α → γ → Prop} (h : xs.mapM f = .ok ys) (h' : ys.mapM g = .ok zs)
    (hr : ∀ x ∈ xs, ∀ y z, f x = .ok y → g y = .ok z → r x z) : List.Forall₂ r xs zs := by
  have hxy := mapM_eq_ok_iff.1 h
  clear h
  induction hxy generalizing zs with
  | nil =>
    obtain rfl := List.forall₂_nil_left_iff.1 (mapM_eq_ok_iff.1 h')
    exact .nil
  | cons hx _ ih =>
    obtain ⟨z, zs', hz, hzs, rfl⟩ := List.forall₂_cons_left_iff.1 (mapM_eq_ok_iff.1 h')
    refine .cons (hr _ List.mem_cons_self _ _ hx hz) (ih (mapM_eq_ok_iff.2 hzs) fun x hmem => ?_)
    exact hr x (List.mem_cons_of_mem _ hmem)

/-- A place in the results of a traversal is a place in the traversed list. -/
theorem split_of_mapM {xs : List α} {ys₁ ys₂ : List β} {y : β}
    (h : xs.mapM f = .ok (ys₁ ++ y :: ys₂)) :
    ∃ xs₁ x xs₂, xs = xs₁ ++ x :: xs₂ ∧ f x = .ok y ∧ xs₂.mapM f = .ok ys₂ := by
  have hxy := mapM_eq_ok_iff.1 h
  clear h
  induction ys₁ generalizing xs with
  | nil =>
    obtain ⟨x, xs₂, hx, hrest, rfl⟩ := List.forall₂_cons_right_iff.1 hxy
    exact ⟨[], x, xs₂, rfl, hx, mapM_eq_ok_iff.2 hrest⟩
  | cons y' ys₁ ih =>
    obtain ⟨x', xs', hx', hrest, rfl⟩ := List.forall₂_cons_right_iff.1 hxy
    obtain ⟨xs₁, x, xs₂, rfl, hx, hrest⟩ := ih hrest
    exact ⟨x' :: xs₁, x, xs₂, rfl, hx, hrest⟩

/-- A traversal that collects messages finds none when its step finds none anywhere. -/
theorem mapM_flatten_eq_nil_iff {γ : Type} {g : α → Except ε (List γ)} {xs : List α} :
    (xs.mapM g).map List.flatten = .ok [] ↔ ∀ x ∈ xs, g x = .ok [] := by
  induction xs with
  | nil => simp [pure, Except.pure, Except.map]
  | cons x xs ih =>
    rw [List.mapM_cons, List.forall_mem_cons, ← ih]
    cases h : g x with
    | error e => simp [bind, Except.bind, Except.map]
    | ok y => cases xs.mapM g <;> simp [bind, Except.bind, pure, Except.pure, Except.map]

/-- A traversal whose step leaves a feature of the elements alone leaves it alone throughout. -/
theorem map_eq_of_mapM {γ : Type} {g : α → γ} {g' : β → γ} {xs : List α} {ys : List β}
    (h : xs.mapM f = .ok ys) (hg : ∀ x y, f x = .ok y → g' y = g x) :
    ys.map g' = xs.map g := by
  have hxy := mapM_eq_ok_iff.1 h
  clear h
  induction hxy with
  | nil => rfl
  | cons hx _ ih => rw [List.map_cons, List.map_cons, hg _ _ hx, ih]

/-- A traversal of the elements in another order yields the results in another order. -/
theorem exists_mapM_perm {xs xs' : List α} {ys : List β} (hp : xs'.Perm xs)
    (h : xs.mapM f = .ok ys) : ∃ ys', xs'.mapM f = .ok ys' ∧ ys'.Perm ys := by
  obtain ⟨ys', hys', hperm⟩ := List.perm_comp_forall₂ hp (mapM_eq_ok_iff.1 h)
  exact ⟨ys', mapM_eq_ok_iff.2 hys', hperm⟩

end

/-! ### Steps side by side -/

section

variable {ε ε' α β γ δ : Type} {r : α → β → Prop} {q : γ → δ → Prop}

/-- Both computations fail, or both yield results and these are related. -/
inductive Both (r : α → β → Prop) : Except ε α → Except ε' β → Prop
  | ok {a : α} {b : β} (h : r a b) : Both r (.ok a) (.ok b)
  | error (e : ε) (e' : ε') : Both r (.error e) (.error e')

variable {x : Except ε α} {y : Except ε' β}

theorem both_eq (x : Except ε α) : Both (· = ·) x x := by
  cases x with
  | ok a => exact .ok rfl
  | error e => exact .error e e

/-- What the first computation yields can be referred to. -/
theorem Both.with_ok (h : Both r x y) : Both (fun a b => x = .ok a ∧ r a b) x y := by
  cases h with
  | ok hab => exact .ok ⟨rfl, hab⟩
  | error e e' => exact .error e e'

theorem Both.bind {f : α → Except ε γ} {g : β → Except ε' δ} (h : Both r x y)
    (hfg : ∀ a b, r a b → Both q (f a) (g b)) : Both q (x >>= f) (y >>= g) := by
  cases h with
  | ok hab => exact hfg _ _ hab
  | error e e' => exact .error e e'

theorem Both.map {f : α → γ} {g : β → δ} (h : Both r x y)
    (hfg : ∀ a b, r a b → q (f a) (g b)) : Both q (x.map f) (y.map g) := by
  cases h with
  | ok hab => exact .ok (hfg _ _ hab)
  | error e e' => exact .error e e'

theorem Both.comp {ε₁ : Type} {z : Except ε₁ γ} {r' : β → γ → Prop} (h : Both r x y)
    (h' : Both r' y z) : Both (fun a c => ∃ b, r a b ∧ r' b c) x z := by
  cases h with
  | ok hab =>
    cases h' with
    | ok hbc => exact .ok ⟨_, hab, hbc⟩
  | error e _ =>
    cases h' with
    | error _ e' => exact .error e e'

theorem Both.mapError {ε₁ ε₁' : Type} {f : ε → ε₁} {g : ε' → ε₁'} (h : Both r x y) :
    Both r (x.mapError f) (y.mapError g) := by
  cases h with
  | ok hab => exact .ok hab
  | error e e' => exact .error (f e) (g e')

theorem both_mapM_perm {f : α → Except ε γ} {xs ys : List α} (h : xs.Perm ys) :
    Both List.Perm (xs.mapM f) (ys.mapM f) := by
  cases hx : xs.mapM f with
  | ok zs =>
    obtain ⟨zs', hy, hperm⟩ := exists_mapM_perm h.symm hx
    rw [hy]
    exact .ok hperm.symm
  | error e =>
    cases hy : ys.mapM f with
    | error e' => exact .error e e'
    | ok zs =>
      obtain ⟨zs', hx', -⟩ := exists_mapM_perm h hy
      rw [hx] at hx'
      cases hx'

theorem both_mapM {f : α → Except ε γ} {g : β → Except ε' δ} {xs : List α} {ys : List β}
    (h : List.Forall₂ r xs ys) (hfg : ∀ a b, r a b → Both q (f a) (g b)) :
    Both (List.Forall₂ q) (xs.mapM f) (ys.mapM g) := by
  induction h with
  | nil => exact .ok .nil
  | cons hab _ ih =>
    rw [List.mapM_cons, List.mapM_cons]
    refine (hfg _ _ hab).bind fun c d hcd => ih.bind fun cs ds hcds => ?_
    exact .ok (.cons hcd hcds)

end

end ServiceContract.Outcome
