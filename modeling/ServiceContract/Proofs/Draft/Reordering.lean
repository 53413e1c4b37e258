import ServiceContract.Proofs.Draft.Distinct
import ServiceContract.Proofs.Draft.Likeness
import ServiceContract.Proofs.Json.Reordering

/-!
# Drafts of reordered documents

Documents that differ in the order of the members of objects only are read to drafts that are
alike, or to none both (`both_ofJson`): texts, labels, flags and bounds are those of the same keys,
arrays keep their order, and the members of an object are read one by one.
-/

namespace ServiceContract.Draft

open Json Outcome

variable {o o' : Members}

/-! ### Parts of elements -/

theorem textOf_twin (h : o.Twin o') (key : Text) : textOf o key = textOf o' key := by
  unfold textOf
  exact h.get?_ind key (fun _ => rfl) (fun _ _ => rfl) fun _ _ => rfl

theorem typeOf_twin (h : o.Twin o') : typeOf o = typeOf o' := by
  unfold typeOf
  exact h.get?_ind "type" (fun _ => rfl) (fun _ _ => rfl) fun _ _ => rfl

theorem requiredOf_twin (h : o.Twin o') : requiredOf o = requiredOf o' := by
  unfold requiredOf
  exact h.get?_ind "required" (fun _ => rfl) (fun _ _ => rfl) fun _ _ => rfl

theorem boundOf_twin (h : o.Twin o') (key : Text) : boundOf o key = boundOf o' key := by
  unfold boundOf
  exact h.get?_ind key (fun _ => rfl) (fun _ _ => rfl) fun _ _ => rfl

theorem responseTypeOf_twin (h : o.Twin o') (code : Text) :
    responseTypeOf code o = responseTypeOf code o' := by
  unfold responseTypeOf
  rw [typeOf_twin h]
  exact h.get?_ind "type" (fun _ => rfl) (fun _ _ => rfl) fun _ _ => rfl

theorem objectsOf_twin (h : o.Twin o') (key : Text) :
    List.Forall₂ Members.Twin (objectsOf o key) (objectsOf o' key) :=
  List.rel_filterMap (fun _ _ hv => hv.members?) (h.getD key).items

theorem namedObjectsOf_twin (h : o.Twin o') (key : Text) :
    Shuffled (Keyed Members.Twin) (namedObjectsOf o key) (namedObjectsOf o' key) := by
  refine (h.getD key).members.filterMap ?_
  rintro ⟨name, v⟩ ⟨_, w⟩ ⟨rfl, hv⟩
  dsimp only at hv ⊢
  obtain ⟨hx, hy⟩ | ⟨inner, inner', hx, hy, hinner⟩ := option_rel_cases hv.members?
  · rw [hx, hy]
    exact .none
  · rw [hx, hy]
    exact .some ⟨rfl, hinner⟩

theorem length_warnings_twin (h : o.Twin o') (table : Table) :
    (table.warnings o).length = (table.warnings o').length := by
  refine (h.members.filterMap (q := fun _ _ => True) ?_).length_eq
  rintro ⟨key, v⟩ ⟨_, w⟩ ⟨rfl, hv⟩
  dsimp only at hv ⊢
  rw [Table.warning?, hv.kind, ← Table.warning?]
  cases table.warning? key w with
  | none => exact .none
  | some _ => exact .some trivial

/-! ### Elements -/

theorem headerOf_twin (h : o.Twin o') : (headerOf o).Alike (headerOf o') :=
  ⟨textOf_twin h "name", typeOf_twin h⟩

theorem enumOf_twin (h : o.Twin o') (name : Text) : enumOf name o = enumOf name o' := by
  unfold enumOf
  rw [textOf_twin h, map_eq_of_forall₂ (objectsOf_twin h "values") fun v v' hv => ?_]
  rw [enumValueOf, textOf_twin hv, textOf_twin hv, ← enumValueOf]

theorem unionOf_twin (h : o.Twin o') (name : Text) : unionOf name o = unionOf name o' := by
  unfold unionOf
  rw [textOf_twin h, map_eq_of_forall₂ (objectsOf_twin h "types") fun m m' hm => ?_]
  rw [unionMemberOf, textOf_twin hm, typeOf_twin hm, ← unionMemberOf]

theorem both_fieldOf (h : o.Twin o') : Both Field.Alike (fieldOf o) (fieldOf o') := by
  unfold fieldOf
  rw [boundOf_twin h, boundOf_twin h]
  refine (both_eq _).bind fun minimum _ _ => (both_eq _).bind fun maximum _ _ => .ok ?_
  refine ⟨textOf_twin h "name", typeOf_twin h, requiredOf_twin h, ?_⟩
  dsimp only
  rw [List.length_append, List.length_append, length_warnings_twin h, typeOf_twin h]

theorem both_modelOf (h : o.Twin o') (name : Text) :
    Both Model.Alike (modelOf name o) (modelOf name o') := by
  unfold modelOf
  refine (both_mapM (objectsOf_twin h "fields") fun _ _ => both_fieldOf).bind fun fs fs' hfs => ?_
  exact .ok ⟨rfl, hfs⟩

/-! ### Resources -/

theorem both_parameterOf (h : o.Twin o') : Both Parameter.Alike (parameterOf o) (parameterOf o') := by
  unfold parameterOf
  rw [boundOf_twin h, boundOf_twin h]
  refine (both_eq _).bind fun minimum _ _ => (both_eq _).bind fun maximum _ _ => .ok ?_
  exact ⟨textOf_twin h "name", typeOf_twin h, requiredOf_twin h⟩

theorem length_parameterWarnings_twin (h : o.Twin o') :
    (parameterWarnings o).length = (parameterWarnings o').length := by
  unfold parameterWarnings
  rw [List.length_map, List.length_map, List.length_append, List.length_append,
    length_warnings_twin h, typeOf_twin h]

theorem bodyOf_twin (h : o.Twin o') (key : Text) :
    (bodyOf (o.get? key)).map Body.type = (bodyOf (o'.get? key)).map Body.type := by
  obtain ⟨hx, hy⟩ | ⟨v, w, hx, hy, hv⟩ := option_rel_cases (h.get? key)
  · rw [hx, hy]
  · rw [hx, hy]
    obtain rfl | ⟨_, _, rfl, rfl⟩ | ⟨ms, ms', rfl, rfl⟩ := hv.reordered.eq_or
    · rfl
    · rfl
    · show some (typeOf ms) = some (typeOf ms')
      rw [typeOf_twin hv]

theorem responseOf_twin {code : Text} {v w : Value} (h : v.Twin w) :
    (responseOf code v).Alike (responseOf code w) := by
  obtain rfl | ⟨_, _, rfl, rfl⟩ | ⟨ms, ms', rfl, rfl⟩ := h.reordered.eq_or
  · exact ⟨rfl, rfl, rfl⟩
  · exact ⟨rfl, rfl, rfl⟩
  · have hms : Members.Twin ms ms' := h
    refine ⟨rfl, responseTypeOf_twin hms code, ?_⟩
    show (responseTable.warnings ms ++ labelWarnings (responseTypeOf code ms)).length =
      (responseTable.warnings ms' ++ labelWarnings (responseTypeOf code ms')).length
    rw [List.length_append, List.length_append, length_warnings_twin hms,
      responseTypeOf_twin hms]

theorem both_operationOf (h : o.Twin o') (path : Text) :
    Both Operation.Alike (operationOf path o) (operationOf path o') := by
  unfold operationOf
  have hparameters := objectsOf_twin h "parameters"
  refine (both_mapM hparameters fun _ _ => both_parameterOf).bind fun ps ps' hps => .ok ?_
  refine ⟨?method, ?path, bodyOf_twin h "body", hps, ?responses, ?warnings⟩
  case method =>
    dsimp only
    rw [textOf_twin h]
  case path =>
    dsimp only
    rw [textOf_twin h]
  case responses =>
    refine (h.getD "responses").members.map ?_
    rintro ⟨code, v⟩ ⟨_, w⟩ ⟨rfl, hv⟩
    exact responseOf_twin hv
  case warnings =>
    dsimp only
    rw [List.length_append, List.length_append, length_warnings_twin h,
      (Shuffled.of_forall₂ hparameters).length_flatMap fun _ _ => length_parameterWarnings_twin]

theorem both_resourceOf (h : o.Twin o') (name : Text) :
    Both Resource.Alike (resourceOf name o) (resourceOf name o') := by
  unfold resourceOf resourcePathOf
  rw [textOf_twin h]
  refine (both_mapM (objectsOf_twin h "operations") fun _ _ hop => both_operationOf hop _).bind
    fun ops ops' hops => .ok ?_
  exact ⟨rfl, hops⟩

/-! ### Documents -/

theorem nodup_modelNames {models : List Model} (h : o.Twin o')
    (hm : ((namedObjectsOf o "models").mapM fun (name, inner) => modelOf name inner) =
      .ok models) : (models.map (·.name)).Nodup := by
  -- the names are keys of one object, less those whose values are no objects
  have hnames : models.map (·.name) = (namedObjectsOf o "models").map (·.1) := by
    refine map_eq_of_mapM hm fun entry m hentry => ?_
    obtain ⟨_, -, rfl⟩ := modelOf_eq_ok_iff.1 hentry
    rfl
  rw [hnames]
  exact nodup_names h.distinct "models"

/-- Reordered documents are read to drafts that are alike, or to none both. -/
theorem both_ofJson (h : o.Twin o') : Both Alike (ofJson o) (ofJson o') := by
  have hmodels : Both (Shuffled Model.Alike)
      ((namedObjectsOf o "models").mapM fun (name, inner) => modelOf name inner)
      ((namedObjectsOf o' "models").mapM fun (name, inner) => modelOf name inner) := by
    refine (namedObjectsOf_twin h "models").mapM ?_
    rintro ⟨name, inner⟩ ⟨_, inner'⟩ ⟨rfl, hinner⟩
    exact both_modelOf hinner name
  have hresources : Both (Shuffled Resource.Alike)
      ((namedObjectsOf o "resources").mapM fun (name, inner) => resourceOf name inner)
      ((namedObjectsOf o' "resources").mapM fun (name, inner) => resourceOf name inner) := by
    refine (namedObjectsOf_twin h "resources").mapM ?_
    rintro ⟨name, inner⟩ ⟨_, inner'⟩ ⟨rfl, hinner⟩
    exact both_resourceOf hinner name
  unfold ofJson
  refine hmodels.with_ok.bind fun ms ms' ⟨hms, hmodels⟩ => hresources.bind fun rs rs' hrs => .ok ?_
  refine ⟨textOf_twin h "name", textOf_twin h "key", ?imports, ?headers, ?enums, ?unions, hmodels,
    nodup_modelNames h hms, hrs⟩
  case imports =>
    refine map_eq_of_forall₂ (objectsOf_twin h "imports") fun i i' hi => ?_
    rw [importOf, textOf_twin hi, ← importOf]
  case headers =>
    exact List.rel_map (fun _ _ hi => headerOf_twin hi) (objectsOf_twin h "headers")
  case enums =>
    refine (namedObjectsOf_twin h "enums").map_perm ?_
    rintro ⟨name, inner⟩ ⟨_, inner'⟩ ⟨rfl, hinner⟩
    exact enumOf_twin hinner name
  case unions =>
    refine (namedObjectsOf_twin h "unions").map_perm ?_
    rintro ⟨name, inner⟩ ⟨_, inner'⟩ ⟨rfl, hinner⟩
    exact unionOf_twin hinner name

end ServiceContract.Draft
