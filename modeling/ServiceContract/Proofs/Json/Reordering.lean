import ServiceContract.Proofs.Json.Members
import ServiceContract.Proofs.Shuffle

/-!
# Values with their members in another order

Two values are reorderings of each other when they differ in the order of the members of objects
only, at any depth.  As long as no key stands twice in an object, what is read off the two is the
same or a reordering again: the value of a key (`Twin.get?`), the items of an array
(`Twin.items`), and, in some order, the members of an object (`Twin.members`).
-/

namespace ServiceContract.Json

mutual

/-- The values differ in nothing but the order of the members of objects, at any depth. -/
inductive Value.Reordered : Value → Value → Prop
  | same (v : Value) : Value.Reordered v v
  | array {items items' : List Value} (related : List.Forall₂ Value.Reordered items items') :
      Value.Reordered (.array items) (.array items')
  | object {members permuted members' : Members} (perm : members.Perm permuted)
      (related : List.Forall₂ Member.Reordered permuted members') :
      Value.Reordered (.object members) (.object members')

/-- Members of one key whose values differ in the order of the members of objects. -/
inductive Member.Reordered : Text × Value → Text × Value → Prop
  | intro (key : Text) {value value' : Value} (h : Value.Reordered value value') :
      Member.Reordered (key, value) (key, value')

end

namespace Value

/-- The values are reorderings of each other, and no object of the first one has a key twice. -/
structure Twin (v w : Value) : Prop where
  reordered : v.Reordered w
  distinct : v.Distinct

variable {v w : Value}

/-- Reorderings that are no arrays and no objects are the same. -/
theorem Reordered.eq_or (h : v.Reordered w) : v = w ∨
    (∃ items items', v = .array items ∧ w = .array items') ∨
    ∃ members members', v = .object members ∧ w = .object members' := by
  cases h with
  | same v => exact Or.inl rfl
  | array h => exact Or.inr (Or.inl ⟨_, _, rfl, rfl⟩)
  | object h => exact Or.inr (Or.inr ⟨_, _, rfl, rfl⟩)

namespace Twin

theorem kind (h : v.Twin w) : v.kind = w.kind := by
  obtain rfl | ⟨_, _, rfl, rfl⟩ | ⟨_, _, rfl, rfl⟩ := h.reordered.eq_or <;> rfl

theorem refl (h : v.Distinct) : v.Twin v := ⟨.same v, h⟩

theorem items (h : v.Twin w) : List.Forall₂ Twin v.items w.items := by
  obtain ⟨hr, -, hitems, -⟩ := h
  cases hr with
  | same v => exact List.forall₂_same.2 fun u hu => refl (hitems u hu)
  | object h => exact .nil
  | array hr =>
    simp only [Value.items] at hitems ⊢
    induction hr with
    | nil => exact .nil
    | cons hr _ ih =>
      obtain ⟨hd, hds⟩ := List.forall_mem_cons.1 hitems
      exact .cons ⟨hr, hd⟩ (ih hds)

theorem members (h : v.Twin w) : Shuffled (Keyed Twin) v.members w.members := by
  obtain ⟨hr, -, -, hmembers⟩ := h
  cases hr with
  | same v =>
    exact .of_forall₂ (List.forall₂_same.2 fun m hm => ⟨rfl, refl (hmembers m hm)⟩)
  | array h => exact .of_forall₂ .nil
  | object perm hr =>
    simp only [Value.members] at hmembers ⊢
    -- the permuted members are as distinct as the members themselves
    refine ⟨_, perm, ?_⟩
    replace hmembers := fun m hm => hmembers m (perm.mem_iff.2 hm)
    clear perm
    induction hr with
    | nil => exact .nil
    | cons hr _ ih =>
      obtain ⟨hd, hds⟩ := List.forall_mem_cons.1 hmembers
      obtain ⟨key, hr⟩ := hr
      exact .cons ⟨rfl, hr, hd⟩ (ih hds)

end Twin

end Value

/-! ### Objects -/

namespace Members

/-- The members of objects that are reorderings of each other. -/
def Twin (o o' : Members) : Prop := (Value.object o).Twin (.object o')

variable {o o' : Members}

theorem Twin.members (h : o.Twin o') : Shuffled (Keyed Value.Twin) o o' :=
  Value.Twin.members h

theorem get?_eq_map_find? (o : Members) (key : Text) :
    o.get? key = (o.find? fun m => m.1 == key).map (·.2) := by
  induction o with
  | nil => rfl
  | cons member rest ih =>
    obtain ⟨k, v⟩ := member
    rw [get?_cons, List.find?_cons]
    by_cases h : key = k
    · rw [if_pos h, beq_iff_eq.2 h.symm]
      rfl
    · rw [if_neg h, beq_eq_false_iff_ne.2 (Ne.symm h), ih]

theorem Twin.get? (h : o.Twin o') (key : Text) :
    Option.Rel Value.Twin (o.get? key) (o'.get? key) := by
  obtain ⟨hkeys, -, -⟩ := h.distinct
  have hfind := h.members.find?_key (fun _ _ hab => hab.1) hkeys key
  rw [get?_eq_map_find?, get?_eq_map_find?]
  obtain ⟨hx, hy⟩ | ⟨a, b, hx, hy, hab⟩ := option_rel_cases hfind
  · rw [hx, hy]
    exact .none
  · rw [hx, hy]
    exact .some hab.2

/-- The values of a key are the same, or arrays both, or objects both. -/
@[elab_as_elim]
theorem Twin.get?_ind {motive : Option Value → Option Value → Prop} (h : o.Twin o') (key : Text)
    (same : ∀ v, motive v v)
    (array : ∀ items items', motive (some (.array items)) (some (.array items')))
    (object : ∀ ms ms', motive (some (.object ms)) (some (.object ms'))) :
    motive (o.get? key) (o'.get? key) := by
  obtain ⟨hx, hy⟩ | ⟨v, w, hx, hy, hv⟩ := option_rel_cases (h.get? key)
  · rw [hx, hy]
    exact same none
  · rw [hx, hy]
    obtain rfl | ⟨items, items', rfl, rfl⟩ | ⟨ms, ms', rfl, rfl⟩ := hv.reordered.eq_or
    · exact same _
    · exact array items items'
    · exact object ms ms'

theorem Twin.getD (h : o.Twin o') (key : Text) :
    ((o.get? key).getD .null).Twin ((o'.get? key).getD .null) := by
  obtain ⟨hx, hy⟩ | ⟨v, w, hx, hy, hv⟩ := option_rel_cases (h.get? key)
  · rw [hx, hy]
    exact .refl (Value.distinct_of_eq_nil rfl rfl)
  · rwa [hx, hy]

end Members

theorem Value.Twin.members? {v w : Value} (h : v.Twin w) :
    Option.Rel Members.Twin v.members? w.members? := by
  obtain rfl | ⟨_, _, rfl, rfl⟩ | ⟨_, _, rfl, rfl⟩ := h.reordered.eq_or
  · cases v with
    | object o => exact .some h
    | _ => exact .none
  · exact .none
  · exact .some h

end ServiceContract.Json
