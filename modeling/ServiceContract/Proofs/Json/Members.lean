import Mathlib.Data.List.Nodup
import ServiceContract.Json.Reader

/-!
# Members of objects

A reader builds the members of an object with `Members.put`, which never lets a key stand twice
(`nodup_keys_put`).  So in a value that is read from a text, no object has a key twice, at any depth
(`distinct_of_read`).
-/

namespace ServiceContract.Json

namespace Members

variable {members : Members} {key k : Text} {value : Value}

/-- The keys of the members, in document order. -/
def keys (members : Members) : List Text := members.map (·.1)

theorem get?_cons (key : Text) (value : Value) (members : Members) (k : Text) :
    get? ((key, value) :: members) k = if k = key then some value else members.get? k := by
  unfold get?
  rw [List.lookup_cons]
  by_cases h : k = key
  · rw [if_pos h, beq_iff_eq.2 h]
  · rw [if_neg h, beq_eq_false_iff_ne.2 h]

theorem mem_of_get? (h : members.get? k = some value) : (k, value) ∈ members := by
  obtain ⟨before, after, hsplit, -⟩ := List.lookup_eq_some_iff.1 h
  rw [hsplit]
  exact List.mem_append_right _ List.mem_cons_self

theorem mem_put {member : Text × Value} (h : member ∈ members.put key value) :
    member = (key, value) ∨ member ∈ members := by
  induction members with
  | nil => exact Or.inl (List.mem_singleton.1 h)
  | cons member' rest ih =>
    obtain ⟨k', v⟩ := member'
    rw [put] at h
    by_cases hk' : k' = key
    · rw [if_pos hk'] at h
      exact (List.mem_cons.1 h).imp_right (List.mem_cons_of_mem _)
    · rw [if_neg hk'] at h
      rcases List.mem_cons.1 h with rfl | h
      · exact Or.inr List.mem_cons_self
      · exact (ih h).imp_right (List.mem_cons_of_mem _)

theorem mem_keys_put (h : k ∈ (members.put key value).keys) : k = key ∨ k ∈ members.keys := by
  obtain ⟨member, hmember, rfl⟩ := List.mem_map.1 h
  rcases mem_put hmember with rfl | hmember
  · exact Or.inl rfl
  · exact Or.inr (List.mem_map_of_mem hmember)

theorem nodup_keys_put (h : members.keys.Nodup) : (members.put key value).keys.Nodup := by
  induction members with
  | nil => exact List.nodup_singleton key
  | cons member rest ih =>
    obtain ⟨k', v⟩ := member
    obtain ⟨hk, hrest⟩ := List.nodup_cons.1 h
    rw [put]
    by_cases hk' : k' = key
    · subst hk'
      rw [if_pos rfl]
      exact List.nodup_cons.2 ⟨hk, hrest⟩
    · rw [if_neg hk']
      refine List.nodup_cons.2 ⟨fun hmem => ?_, ih hrest⟩
      rcases mem_keys_put hmem with heq | hmem
      · exact hk' heq
      · exact hk hmem

end Members

/-! ### Values read from a text -/

/-- No object in the value has a key twice, at any depth. -/
inductive Value.Distinct : Value → Prop
  | intro {v : Value} (keys : v.members.keys.Nodup) (items : ∀ w ∈ v.items, Distinct w)
      (members : ∀ m ∈ v.members, Distinct m.2) : Distinct v

/-- A value with neither items nor members has no keys. -/
theorem Value.distinct_of_eq_nil {v : Value} (items : v.items = []) (members : v.members = []) :
    v.Distinct := by
  refine .intro ?_ (by simp [items]) (by simp [members])
  rw [members]
  exact List.nodup_nil

/-- The value of a key, or null. -/
theorem Value.Distinct.getD {o : Members} (h : (Value.object o).Distinct) (key : Text) :
    ((o.get? key).getD .null).Distinct := by
  obtain ⟨-, -, hmembers⟩ := h
  cases hv : o.get? key with
  | none => exact Value.distinct_of_eq_nil rfl rfl
  | some v => exact hmembers _ (Members.mem_of_get? hv)

theorem Value.Distinct.object_of_members? {v : Value} {o : Members} (h : v.Distinct)
    (ho : v.members? = some o) : (Value.object o).Distinct := by
  cases v with
  | object o' =>
    obtain rfl := Option.some.inj ho
    exact h
  | _ => cases ho

theorem Value.distinct_array {items : List Value} (h : ∀ v ∈ items, v.Distinct) :
    (Value.array items).Distinct :=
  .intro List.nodup_nil h (by simp [Value.members])

/-- A reader yields nothing that lacks the property. -/
def Yields {α : Type} (p : α → Prop) : Except Stop (α × Text) → Prop
  | .ok (a, _) => p a
  | .error _ => True

section

variable {α β : Type} {p : α → Prop} {q : β → Prop} {r : Except Stop (α × Text)}

theorem Yields.imp {q : α → Prop} (h : Yields p r) (hpq : ∀ a, p a → q a) : Yields q r := by
  match r, h with
  | .ok (a, _), h => exact hpq a h
  | .error _, _ => trivial

theorem Yields.map {f : α × Text → β × Text} (h : Yields p r) (hf : ∀ x, p x.1 → q (f x).1) :
    Yields q (r.map f) := by
  match r, h with
  | .ok x, h => exact hf x h
  | .error _, _ => trivial

theorem Yields.bind {f : α × Text → Except Stop (β × Text)} (h : Yields p r)
    (hf : ∀ a left, p a → Yields q (f (a, left))) : Yields q (r >>= f) := by
  match r, h with
  | .ok (a, left), h => exact hf a left h
  | .error _, _ => trivial

theorem yields_true (r : Except Stop (α × Text)) : Yields (fun _ => True) r := by
  match r with
  | .ok _ => trivial
  | .error _ => trivial

end

/-- A value that is no string and holds no other values. -/
def Value.IsScalar (v : Value) : Prop := v.text? = none ∧ v.items = [] ∧ v.members = []

theorem isScalar_of_readScalar (t : Text) : Yields Value.IsScalar (readScalar t) := by
  unfold readScalar
  cases hc : readConstant? t with
  | some result =>
    obtain ⟨⟨name, v⟩, hmem, hv⟩ := List.exists_of_findSome?_eq_some hc
    dsimp only at hv
    split at hv
    · obtain rfl := Option.some.inj hv
      have hscalar : ∀ c ∈ constants, c.2.IsScalar := by
        simp [constants, Value.IsScalar, Value.text?, Value.items, Value.members]
      exact hscalar _ hmem
    · cases hv
  | none =>
    cases readNumeral t with
    | none => trivial
    | some result =>
      obtain ⟨numeral, left⟩ := result
      dsimp only
      unfold Numeral.value
      split
      · split
        · trivial
        · exact ⟨rfl, rfl, rfl⟩
      · exact ⟨rfl, rfl, rfl⟩

theorem yields_readScalar (t : Text) : Yields Value.Distinct (readScalar t) :=
  (isScalar_of_readScalar t).imp fun _ h => Value.distinct_of_eq_nil h.2.1 h.2.2

section

variable {fuel : Nat}

theorem yields_readValue_succ
    (hmembers : ∀ depth members t, (Value.object members).Distinct →
      Yields (fun ms => (Value.object ms).Distinct) (readMembers fuel depth members t))
    (hitems : ∀ depth t, Yields (fun vs => ∀ v ∈ vs, v.Distinct) (readItems fuel depth t))
    (depth : Nat) (t : Text) : Yields Value.Distinct (readValue (fuel + 1) depth t) := by
  have hempty : (Value.object []).Distinct := Value.distinct_of_eq_nil rfl rfl
  unfold readValue
  split
  · refine (yields_true (readText _)).map fun x _ => ?_
    exact Value.distinct_of_eq_nil rfl rfl
  · split
    · trivial
    · split
      · exact hempty
      · exact (hmembers _ _ _ hempty).map fun _ h => h
  · split
    · trivial
    · split
      · exact Value.distinct_array (by simp)
      · exact (hitems _ _).map fun _ h => Value.distinct_array h
  · exact yields_readScalar t

theorem Value.distinct_put {members : Members} {v : Value} (key : Text)
    (h : (Value.object members).Distinct) (hv : v.Distinct) :
    (Value.object (members.put key v)).Distinct := by
  obtain ⟨hkeys, -, hmembers⟩ := h
  refine .intro (Members.nodup_keys_put hkeys) (by simp [Value.items]) fun m hm => ?_
  rcases Members.mem_put hm with rfl | hm
  · exact hv
  · exact hmembers m hm

theorem yields_readMembers_succ
    (hvalue : ∀ depth t, Yields Value.Distinct (readValue fuel depth t))
    (hmembers : ∀ depth members t, (Value.object members).Distinct →
      Yields (fun ms => (Value.object ms).Distinct) (readMembers fuel depth members t))
    (depth : Nat) (members : Members) (t : Text) (h : (Value.object members).Distinct) :
    Yields (fun ms => (Value.object ms).Distinct) (readMembers (fuel + 1) depth members t) := by
  unfold readMembers
  split
  · refine (yields_true (readText _)).bind fun key left _ => ?_
    dsimp only
    split
    · refine (hvalue _ _).bind fun v left hv => ?_
      have hput := Value.distinct_put key h hv
      dsimp only
      split
      · exact hput
      · exact hmembers _ _ _ hput
      · trivial
    · trivial
  · trivial

theorem yields_readItems_succ
    (hvalue : ∀ depth t, Yields Value.Distinct (readValue fuel depth t))
    (hitems : ∀ depth t, Yields (fun vs => ∀ v ∈ vs, v.Distinct) (readItems fuel depth t))
    (depth : Nat) (t : Text) :
    Yields (fun vs => ∀ v ∈ vs, v.Distinct) (readItems (fuel + 1) depth t) := by
  unfold readItems
  refine (hvalue depth t).bind fun v left hv => ?_
  dsimp only
  split
  · exact List.forall_mem_singleton.2 hv
  · exact (hitems _ _).map fun _ hvs => List.forall_mem_cons.2 ⟨hv, hvs⟩
  · trivial

/-- The readers of values, members and items yield objects with distinct keys only. -/
theorem yields_readers (fuel : Nat) :
    (∀ depth t, Yields Value.Distinct (readValue fuel depth t)) ∧
    (∀ depth members t, (Value.object members).Distinct →
      Yields (fun ms => (Value.object ms).Distinct) (readMembers fuel depth members t)) ∧
    ∀ depth t, Yields (fun vs => ∀ v ∈ vs, v.Distinct) (readItems fuel depth t) := by
  induction fuel with
  | zero => exact ⟨fun _ _ => trivial, fun _ _ _ _ => trivial, fun _ _ => trivial⟩
  | succ fuel ih =>
    obtain ⟨hvalue, hmembers, hitems⟩ := ih
    exact ⟨yields_readValue_succ hmembers hitems, yields_readMembers_succ hvalue hmembers,
      yields_readItems_succ hvalue hitems⟩

end

/-! ### Objects and whole texts -/

/-- The brace that opens an object with members. -/
theorem readValue_brace {fuel depth : Nat} {rest : Text}
    (h : ∀ left, skipSpace rest ≠ .char '\x7d' :: left) :
    readValue (fuel + 1) (depth + 1) (.char '\x7b' :: rest) =
      (readMembers fuel depth [] (skipSpace rest)).map fun x => (.object x.1, x.2) := by
  rw [readValue]
  dsimp only
  split
  · rename_i left hleft
    exact absurd hleft (h left)
  · rfl

theorem readAll_eq_ok_iff {text : Text} {v : Value} : readAll text = .ok v ↔
    ∃ left, readValue (2 * text.length + 2) depthLimit (skipSpace text) = .ok (v, left) ∧
      skipSpace left = [] := by
  unfold readAll
  cases readValue (2 * text.length + 2) depthLimit (skipSpace text) with
  | error stop => simp [bind, Except.bind]
  | ok result =>
    obtain ⟨w, left⟩ := result
    cases hleft : skipSpace left with
    | nil => simp [bind, Except.bind, hleft]
    | cons c rest => simp [bind, Except.bind, hleft]

theorem distinct_of_readAll {t : Text} {v : Value} (h : readAll t = .ok v) : v.Distinct := by
  obtain ⟨left, hvalue, -⟩ := readAll_eq_ok_iff.1 h
  have hyields := (yields_readers (2 * t.length + 2)).1 depthLimit (skipSpace t)
  rw [hvalue] at hyields
  exact hyields

/-- A value that is read from a text has no object with a key that stands twice. -/
theorem distinct_of_read {t : Text} {v : Value} (h : read t = .ok v) : v.Distinct := by
  unfold read at h
  split at h
  · cases h
  · cases hr : readAll t with
    | error stop => simp [hr, Except.mapError] at h
    | ok w =>
      obtain rfl : w = v := by simpa [hr, Except.mapError] using h
      exact distinct_of_readAll hr

end ServiceContract.Json
