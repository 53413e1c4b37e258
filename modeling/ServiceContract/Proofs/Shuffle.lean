import Mathlib.Algebra.BigOperators.Group.List.Basic
import Mathlib.Data.List.Find
import Mathlib.Data.List.Nodup
import ServiceContract.Proofs.Outcome

/-!
# Lists related in some order

`Shuffled r xs ys` says that `ys` is related to a permutation of `xs`, element by element.  What
does not depend on order is the same of both lists: how many messages the elements draw
(`length_flatMap`), the element of a key (`find?_key`), and whether a traversal succeeds
(`mapM`).
-/

namespace ServiceContract

/-- Some permutation of `xs` is related to `ys`, element by element. -/
def Shuffled {α β : Type} (r : α → β → Prop) (xs : List α) (ys : List β) : Prop :=
  ∃ zs, xs.Perm zs ∧ List.Forall₂ r zs ys

/-- Pairs with one key, whose values are related. -/
def Keyed {κ α β : Type} (r : α → β → Prop) (a : κ × α) (b : κ × β) : Prop :=
  a.1 = b.1 ∧ r a.2 b.2

/-! ### Options and lists related in place -/

theorem option_rel_cases {α β : Type} {r : α → β → Prop} {x : Option α} {y : Option β}
    (h : Option.Rel r x y) : (x = none ∧ y = none) ∨ ∃ a b, x = some a ∧ y = some b ∧ r a b := by
  cases h with
  | none => exact Or.inl ⟨rfl, rfl⟩
  | some hab => exact Or.inr ⟨_, _, rfl, rfl, hab⟩

theorem option_map_cases {α β γ : Type} {f : α → γ} {g : β → γ} {x : Option α}
    {y : Option β} (h : x.map f = y.map g) :
    (x = none ∧ y = none) ∨ ∃ a b, x = some a ∧ y = some b ∧ f a = g b := by
  cases x with
  | none => exact Or.inl ⟨rfl, Option.map_eq_none_iff.1 h.symm⟩
  | some a =>
    obtain ⟨b, hb, hab⟩ := Option.map_eq_some_iff.1 h.symm
    exact Or.inr ⟨a, b, rfl, hb, hab.symm⟩

section

variable {α β γ : Type} {r : α → β → Prop} {xs : List α} {ys : List β}

theorem map_eq_of_forall₂ {f : α → γ} {g : β → γ} (h : List.Forall₂ r xs ys)
    (hfg : ∀ a b, r a b → f a = g b) : xs.map f = ys.map g := by
  rw [← List.forall₂_eq_eq_eq, List.forall₂_map_left_iff, List.forall₂_map_right_iff]
  exact h.imp hfg

theorem filterMap_eq_of_forall₂ {f : α → Option γ} {g : β → Option γ} (h : List.Forall₂ r xs ys)
    (hfg : ∀ a b, r a b → f a = g b) : xs.filterMap f = ys.filterMap g := by
  rw [← List.forall₂_eq_eq_eq]
  refine List.rel_filterMap (fun a b hab => ?_) h
  rw [hfg a b hab]
  cases g b with
  | none => exact .none
  | some c => exact .some rfl

theorem mapM_eq_of_forall₂ {ε : Type} {f : α → Except ε γ} {g : β → Except ε γ}
    (h : List.Forall₂ r xs ys) (hfg : ∀ a b, r a b → f a = g b) : xs.mapM f = ys.mapM g := by
  induction h with
  | nil => rfl
  | cons hab _ ih => rw [List.mapM_cons, List.mapM_cons, hfg _ _ hab, ih]

end

theorem mapM_congr_left {ε α β : Type} {f g : α → Except ε β} {xs : List α}
    (h : ∀ x ∈ xs, f x = g x) : xs.mapM f = xs.mapM g :=
  mapM_eq_of_forall₂ (List.forall₂_same.2 h) fun _ _ hfg => hfg

/-! ### Lists of one length -/

theorem isEmpty_eq_of_length {α β : Type} {xs : List α} {ys : List β}
    (h : xs.length = ys.length) : xs.isEmpty = ys.isEmpty := by
  rw [Bool.eq_iff_iff, List.isEmpty_iff_length_eq_zero, List.isEmpty_iff_length_eq_zero, h]

theorem length_append_congr {α : Type} {xs xs' ys ys' : List α} (hx : xs.length = xs'.length)
    (hy : ys.length = ys'.length) : (xs ++ ys).length = (xs' ++ ys').length := by
  rw [List.length_append, List.length_append, hx, hy]

theorem length_flatMap_congr {α β : Type} {f g : α → List β} {xs : List α}
    (h : ∀ x, (f x).length = (g x).length) : (xs.flatMap f).length = (xs.flatMap g).length := by
  rw [List.length_flatMap, List.length_flatMap, funext h]

/-! ### Lists related in some order -/

namespace Shuffled

open Outcome

variable {α β γ δ : Type} {r : α → β → Prop} {q : γ → δ → Prop} {xs xs' : List α}
  {ys ys' : List β}

theorem of_forall₂ (h : List.Forall₂ r xs ys) : Shuffled r xs ys := ⟨xs, .refl xs, h⟩

theorem of_perm (h : xs.Perm xs') : Shuffled (· = ·) xs xs' :=
  ⟨xs', h, List.forall₂_eq_eq_eq ▸ rfl⟩

theorem perm_left (h : Shuffled r xs' ys) (hp : xs.Perm xs') : Shuffled r xs ys := by
  obtain ⟨zs, hzs, hr⟩ := h
  exact ⟨zs, hp.trans hzs, hr⟩

theorem append (h : Shuffled r xs ys) (h' : Shuffled r xs' ys') :
    Shuffled r (xs ++ xs') (ys ++ ys') := by
  obtain ⟨zs, hzs, hr⟩ := h
  obtain ⟨zs', hzs', hr'⟩ := h'
  exact ⟨zs ++ zs', hzs.append hzs', List.rel_append hr hr'⟩

theorem map {f : α → γ} {g : β → δ} (h : Shuffled r xs ys)
    (hfg : ∀ a b, r a b → q (f a) (g b)) : Shuffled q (xs.map f) (ys.map g) := by
  obtain ⟨zs, hzs, hr⟩ := h
  exact ⟨zs.map f, hzs.map f, List.rel_map (fun a b => hfg a b) hr⟩

theorem filterMap {f : α → Option γ} {g : β → Option δ} (h : Shuffled r xs ys)
    (hfg : ∀ a b, r a b → Option.Rel q (f a) (g b)) :
    Shuffled q (xs.filterMap f) (ys.filterMap g) := by
  obtain ⟨zs, hzs, hr⟩ := h
  exact ⟨zs.filterMap f, hzs.filterMap f, List.rel_filterMap (fun a b => hfg a b) hr⟩

theorem filter {p : α → Bool} {p' : β → Bool} (h : Shuffled r xs ys)
    (hp : ∀ a b, r a b → p a = p' b) : Shuffled r (xs.filter p) (ys.filter p') := by
  obtain ⟨zs, hzs, hr⟩ := h
  refine ⟨zs.filter p, hzs.filter p, List.rel_filter (fun a b hab => ?_) hr⟩
  show p a = true ↔ p' b = true
  rw [hp a b hab]

theorem flatMap {f : α → List γ} {g : β → List δ} (h : Shuffled r xs ys)
    (hfg : ∀ a b, r a b → Shuffled q (f a) (g b)) :
    Shuffled q (xs.flatMap f) (ys.flatMap g) := by
  obtain ⟨zs, hzs, hr⟩ := h
  refine perm_left ?_ (hzs.flatMap_right f)
  clear hzs
  induction hr with
  | nil => exact of_forall₂ .nil
  | cons hab _ ih =>
    rw [List.flatMap_cons, List.flatMap_cons]
    exact (hfg _ _ hab).append ih

/-! ### What does not depend on order -/

theorem map_perm {f : α → γ} {g : β → γ} (h : Shuffled r xs ys)
    (hfg : ∀ a b, r a b → f a = g b) : (xs.map f).Perm (ys.map g) := by
  obtain ⟨zs, hzs, hr⟩ := h
  rw [← map_eq_of_forall₂ hr hfg]
  exact hzs.map f

theorem perm {xs ys : List α} (h : Shuffled (· = ·) xs ys) : xs.Perm ys := by
  obtain ⟨zs, hzs, hr⟩ := h
  rw [List.forall₂_eq_eq_eq] at hr
  rwa [← hr]

theorem length_eq (h : Shuffled r xs ys) : xs.length = ys.length := by
  obtain ⟨zs, hzs, hr⟩ := h
  rw [hzs.length_eq, hr.length_eq]

theorem length_flatMap {f : α → List γ} {g : β → List δ} (h : Shuffled r xs ys)
    (hfg : ∀ a b, r a b → (f a).length = (g b).length) :
    (xs.flatMap f).length = (ys.flatMap g).length := by
  rw [List.length_flatMap, List.length_flatMap]
  exact (h.map_perm hfg).sum_eq

theorem any_eq {p : α → Bool} {p' : β → Bool} (h : Shuffled r xs ys)
    (hp : ∀ a b, r a b → p a = p' b) : xs.any p = ys.any p' := by
  have hmap := (h.map_perm hp).any_eq (f := id)
  rwa [List.any_map, List.any_map] at hmap

/-- The element of a key, where no two elements have the same. -/
theorem find?_key {κ : Type} [BEq κ] [LawfulBEq κ] {k : α → κ} {k' : β → κ} (h : Shuffled r xs ys)
    (hk : ∀ a b, r a b → k a = k' b) (hn : (xs.map k).Nodup) (key : κ) :
    Option.Rel r (xs.find? fun a => k a == key) (ys.find? fun b => k' b == key) := by
  obtain ⟨zs, hzs, hr⟩ := h
  -- as no other element has the key, the search in a permutation stops at the same one
  have hone : {a ∈ xs | k a == key}.Subsingleton := by
    rintro a ⟨ha, hka⟩ b ⟨hb, hkb⟩
    refine List.inj_on_of_nodup_map hn ha hb ?_
    rw [beq_iff_eq.1 hka, beq_iff_eq.1 hkb]
  rw [List.find?_eq_find?_of_perm hzs hone]
  clear hzs hone
  induction hr with
  | nil => exact .none
  | cons hab _ ih =>
    rw [List.find?_cons, List.find?_cons, ← hk _ _ hab]
    split
    · exact .some hab
    · exact ih

/-- Two traversals fail both, or yield lists that are related in some order. -/
theorem mapM {ε ε' : Type} {f : α → Except ε γ} {g : β → Except ε' δ} (h : Shuffled r xs ys)
    (hfg : ∀ a b, r a b → Both q (f a) (g b)) : Both (Shuffled q) (xs.mapM f) (ys.mapM g) := by
  obtain ⟨zs, hzs, hr⟩ := h
  exact (both_mapM_perm hzs).comp (both_mapM hr hfg)

end Shuffled

end ServiceContract
