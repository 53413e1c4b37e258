import ServiceContract.Proofs.Draft.Distinct
import ServiceContract.Proofs.Draft.Likeness
import ServiceContract.Proofs.Json.Reordering

/-!
# Documents with their methods spelled in another way

A method is known by its name in any mix of capital and small letters, with blanks around it.  Two
documents that differ in how the methods of operations are spelled, and in nothing else, are read
to drafts that differ in nothing else, or to none both (`both_ofJson_respelled`).  Such drafts are
alike (`Respelled.alike`).
-/

namespace ServiceContract

namespace Json

/-- The values are the same, or objects that are related. -/
inductive Value.SameOr (r : Members → Members → Prop) : Value → Value → Prop
  | same (v : Value) : Value.SameOr r v v
  | object {o o' : Members} (h : r o o') : Value.SameOr r (.object o) (.object o')

/-- Arrays whose items are the same, or objects that are related. -/
def Value.ArraysOf (r : Members → Members → Prop) (v v' : Value) : Prop :=
  ∃ items items', v = .array items ∧ v' = .array items' ∧
    List.Forall₂ (Value.SameOr r) items items'

/-- Objects with the same keys, whose values are the same, or objects that are related. -/
def Value.ObjectsOf (r : Members → Members → Prop) (v v' : Value) : Prop :=
  ∃ members members', v = .object members ∧ v' = .object members' ∧
    List.Forall₂ (Keyed (Value.SameOr r)) members members'

namespace Members

/-- Members with the same keys, whose values are the same except that those of one key may be
related instead. -/
def DifferAt (key : Text) (r : Value → Value → Prop) (o o' : Members) : Prop :=
  List.Forall₂ (fun m m' => m.1 = m'.1 ∧ (m.2 = m'.2 ∨ m.1 = key ∧ r m.2 m'.2)) o o'

variable {key : Text} {r : Value → Value → Prop} {o o' : Members}

theorem DifferAt.refl (o : Members) : o.DifferAt key r o :=
  List.forall₂_same.2 fun _ _ => ⟨rfl, Or.inl rfl⟩

theorem DifferAt.get?_cases (h : o.DifferAt key r o') (k : Text) : o'.get? k = o.get? k ∨
    k = key ∧ ∃ v v', o.get? k = some v ∧ o'.get? k = some v' ∧ r v v' := by
  unfold DifferAt at h
  induction h with
  | nil => exact Or.inl rfl
  | @cons m m' _ _ hm _ ih =>
    obtain ⟨k₁, v⟩ := m
    obtain ⟨_, v'⟩ := m'
    obtain ⟨rfl, hv⟩ := hm
    rw [get?_cons, get?_cons]
    by_cases hk : k = k₁
    · rw [if_pos hk, if_pos hk]
      rcases hv with rfl | ⟨hkey, hv⟩
      · exact Or.inl rfl
      · exact Or.inr ⟨hk.trans hkey, v, v', rfl, rfl, hv⟩
    · rw [if_neg hk, if_neg hk]
      exact ih

theorem DifferAt.get?_of_ne (h : o.DifferAt key r o') {k : Text} (hk : k ≠ key) :
    o'.get? k = o.get? k := by
  rcases h.get?_cases k with heq | ⟨hkey, -⟩
  · exact heq
  · exact absurd hkey hk

end Members

end Json

namespace Draft

open Json Outcome

/-! ### Documents -/

/-- Two texts that name the same method. -/
def SameMethod (v v' : Value) : Prop :=
  ∃ t t' m, v = .string t ∧ v' = .string t' ∧ Method.ofText? t = some m ∧ Method.ofText? t' = some m

/-- Operations of a document that differ in the spelling of the method at most. -/
def OperationRespelled : Members → Members → Prop :=
  Members.DifferAt "method" SameMethod

/-- Resources of a document that differ in the spelling of methods at most. -/
def ResourceRespelled : Members → Members → Prop :=
  Members.DifferAt "operations" (Value.ArraysOf OperationRespelled)

/-- Documents that differ in the spelling of the methods of operations at most. -/
def DocumentRespelled : Members → Members → Prop :=
  Members.DifferAt "resources" (Value.ObjectsOf ResourceRespelled)

section

variable {r : Members → Members → Prop} {key : Text} {o o' : Members}

theorem members?_rel {v v' : Value} (hr : ∀ o, r o o) (h : v.SameOr r v') :
    Option.Rel r v.members? v'.members? := by
  cases h with
  | object h => exact .some h
  | same v =>
    cases hv : v.members? with
    | none => exact .none
    | some o => exact .some (hr o)

theorem objectsOf_related (hr : ∀ o, r o o) (h : o.DifferAt key (Value.ArraysOf r) o') :
    List.Forall₂ r (objectsOf o key) (objectsOf o' key) := by
  rcases h.get?_cases key with heq | ⟨-, v, v', hv, hv', items, items', rfl, rfl, hitems⟩
  · rw [objectsOf_congr heq]
    exact List.forall₂_same.2 fun o _ => hr o
  · unfold objectsOf
    rw [hv, hv']
    exact List.rel_filterMap (fun _ _ hv => members?_rel hr hv) hitems

theorem namedObjectsOf_related (hr : ∀ o, r o o) (h : o.DifferAt key (Value.ObjectsOf r) o') :
    List.Forall₂ (Keyed r) (namedObjectsOf o key) (namedObjectsOf o' key) := by
  rcases h.get?_cases key with heq | ⟨-, v, v', hv, hv', members, members', rfl, rfl, hmembers⟩
  · rw [namedObjectsOf_congr heq]
    exact List.forall₂_same.2 fun entry _ => ⟨rfl, hr entry.2⟩
  · unfold namedObjectsOf
    rw [hv, hv']
    refine List.rel_filterMap ?_ hmembers
    rintro ⟨name, v⟩ ⟨_, v'⟩ ⟨rfl, hsame⟩
    dsimp only at hsame ⊢
    obtain ⟨hx, hy⟩ | ⟨inner, inner', hx, hy, hinner⟩ := option_rel_cases (members?_rel hr hsame)
    · rw [hx, hy]
      exact .none
    · rw [hx, hy]
      exact .some ⟨rfl, hinner⟩

end

/-! ### Drafts -/

/-- The operation, and the same one with a text for its method that names the same. -/
inductive Operation.Respelled : Operation → Operation → Prop
  | intro (op : Operation) {method' : Option Text}
    (h : op.method.map Method.ofText? = method'.map Method.ofText?) :
    Operation.Respelled op { op with method := method' }

inductive Resource.Respelled : Resource → Resource → Prop
  | intro (r : Resource) {operations' : List Operation}
    (h : List.Forall₂ Operation.Respelled r.operations operations') :
    Resource.Respelled r { r with operations := operations' }

/-- Drafts that differ in the spelling of methods at most. -/
inductive Respelled : Draft → Draft → Prop
  | intro (d : Draft) {resources' : List Resource}
    (h : List.Forall₂ Resource.Respelled d.resources resources') :
    Respelled d { d with resources := resources' }

theorem Operation.Respelled.alike {op op' : Operation} (h : op.Respelled op') : op.Alike op' := by
  obtain ⟨hmethod⟩ := h
  have hparameters : List.Forall₂ Parameter.Alike op.parameters op.parameters :=
    List.forall₂_same.2 fun _ _ => ⟨rfl, rfl, rfl⟩
  have hresponses : List.Forall₂ Response.Alike op.responses op.responses :=
    List.forall₂_same.2 fun _ _ => ⟨rfl, rfl, rfl⟩
  exact ⟨hmethod, rfl, rfl, hparameters, .of_forall₂ hresponses, rfl⟩

theorem Resource.Respelled.alike {r r' : Resource} (h : r.Respelled r') : r.Alike r' := by
  obtain ⟨hoperations⟩ := h
  exact ⟨rfl, hoperations.imp fun _ _ hop => hop.alike⟩

theorem Respelled.alike {d d' : Draft} (h : d.Respelled d')
    (hnames : (d.models.map (·.name)).Nodup) : d.Alike d' := by
  obtain ⟨hresources⟩ := h
  have hfields : ∀ m ∈ d.models, List.Forall₂ Field.Alike m.fields m.fields :=
    fun m _ => List.forall₂_same.2 fun _ _ => ⟨rfl, rfl, rfl, rfl⟩
  exact {
    name := rfl
    key := rfl
    imports := rfl
    headers := List.forall₂_same.2 fun _ _ => ⟨rfl, rfl⟩
    enums := .refl _
    unions := .refl _
    models := .of_forall₂ (List.forall₂_same.2 fun m hm => ⟨rfl, hfields m hm⟩)
    apart := hnames
    resources := .of_forall₂ (hresources.imp fun _ _ hr => hr.alike) }

/-! ### Reading -/

variable {o o' : Members}

theorem map_ofText?_textOf (h : OperationRespelled o o') :
    (textOf o "method").map Method.ofText? = (textOf o' "method").map Method.ofText? := by
  rcases h.get?_cases "method" with heq | ⟨-, _, _, hv, hv', t, t', m, rfl, rfl, hm, hm'⟩
  · rw [textOf_congr heq]
  · rw [textOf_eq_some_iff.2 hv, textOf_eq_some_iff.2 hv', Option.map_some, Option.map_some, hm,
      hm']

/-- Warnings are about keys and about the kinds of values. -/
theorem warnings_respelled (h : OperationRespelled o o') (table : Table) :
    table.warnings o' = table.warnings o := by
  unfold Table.warnings
  refine (filterMap_eq_of_forall₂ h ?_).symm
  rintro ⟨key, v⟩ ⟨_, v'⟩ ⟨rfl, rfl | ⟨-, t, t', m, rfl, rfl, -, -⟩⟩
  · rfl
  · rfl

theorem both_operationOf_respelled (h : OperationRespelled o o') (path : Text) :
    Both Operation.Respelled (operationOf path o) (operationOf path o') := by
  have hother : ∀ k : Text, k ≠ "method" → o'.get? k = o.get? k := fun _ hk => h.get?_of_ne hk
  unfold operationOf
  rw [objectsOf_congr (hother "parameters" (by decide)), warnings_respelled h,
    textOf_congr (hother "path" (by decide)), textOf_congr (hother "description" (by decide)),
    hother "body" (by decide), hother "responses" (by decide)]
  refine (both_eq _).bind ?_
  rintro parameters _ rfl
  exact .ok (.intro _ (map_ofText?_textOf h))

theorem both_resourceOf_respelled (h : ResourceRespelled o o') (name : Text) :
    Both Resource.Respelled (resourceOf name o) (resourceOf name o') := by
  have hother : ∀ k : Text, k ≠ "operations" → o'.get? k = o.get? k := fun _ hk => h.get?_of_ne hk
  have hoperations := objectsOf_related (fun _ => .refl _) h
  unfold resourceOf resourcePathOf
  rw [textOf_congr (hother "path" (by decide)), textOf_congr (hother "description" (by decide))]
  refine (both_mapM hoperations fun _ _ hop => both_operationOf_respelled hop _).bind ?_
  intro operations operations' hops
  exact .ok (.intro ⟨_, _, _, operations⟩ hops)

/-- Documents that differ in the spelling of methods are read to drafts that differ in nothing
else, or to none both. -/
theorem both_ofJson_respelled (h : DocumentRespelled o o') :
    Both Respelled (ofJson o) (ofJson o') := by
  have hother : ∀ k : Text, k ≠ "resources" → o'.get? k = o.get? k := fun _ hk => h.get?_of_ne hk
  have htext : ∀ k : Text, k ≠ "resources" → textOf o' k = textOf o k :=
    fun k hk => textOf_congr (hother k hk)
  have hobjects : ∀ k : Text, k ≠ "resources" → objectsOf o' k = objectsOf o k :=
    fun k hk => objectsOf_congr (hother k hk)
  have hnamed : ∀ k : Text, k ≠ "resources" → namedObjectsOf o' k = namedObjectsOf o k :=
    fun k hk => namedObjectsOf_congr (hother k hk)
  unfold ofJson
  simp (disch := decide) only [htext, hobjects, hnamed]
  refine (both_eq _).bind ?_
  rintro models _ rfl
  refine (both_mapM (namedObjectsOf_related (fun _ => .refl _) h) ?_).bind
    fun resources resources' hresources =>
      .ok (.intro ⟨_, _, _, _, _, _, _, _, _, _, resources⟩ hresources)
  rintro ⟨name, inner⟩ ⟨_, inner'⟩ ⟨rfl, hinner⟩
  exact both_resourceOf_respelled hinner name

end Draft

end ServiceContract
