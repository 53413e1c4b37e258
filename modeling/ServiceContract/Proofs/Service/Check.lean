import ServiceContract.Proofs.Text.Order
import ServiceContract.Service.Check

/-!
# What the checks of a whole service ask for

Each check is silent exactly when the part of the service that it looks at is as it should be.
-/

namespace ServiceContract

theorem Method.ofText?_name (m : Method) : Method.ofText? m.name = some m := by
  cases m <;> decide

theorem Method.name_injective : Function.Injective Method.name := by
  intro m m' h
  apply Option.some.inj
  rw [← Method.ofText?_name m, ← Method.ofText?_name m', h]

namespace Service

theorem repeated_eq_nil_iff {label : Text} {names : List Text} :
    repeated label names = [] ↔ names.Nodup := by
  unfold repeated
  rw [List.map_eq_nil_iff, Text.duplicates_eq_nil_iff]

/-! ### Names of types -/

theorem map_fst_kindsOfNames (s : Service) : s.kindsOfNames.map (·.1) = s.declarations.names := by
  simp only [kindsOfNames, declarations, Declarations.names, List.map_append, List.map_map,
    Function.comp_def]

/-- A name has as many kinds as it has declarations. -/
theorem length_kindsOf (s : Service) (name : Text) :
    (s.kindsOf name).length = s.declarations.names.count name := by
  rw [kindsOf, List.length_map, ← List.countP_eq_length_filter, ← map_fst_kindsOfNames,
    List.count_eq_countP, List.countP_map]
  rfl

theorem typeNameErrors_eq_nil_iff {s : Service} :
    s.typeNameErrors = [] ↔ s.declarations.names.Nodup := by
  unfold typeNameErrors
  simp only [List.map_eq_nil_iff, map_fst_kindsOfNames, length_kindsOf,
    Text.filter_repeated_eq_nil_iff]

/-! ### Enums, models, unions and headers -/

theorem enumErrors_eq_nil_iff {e : Enum} :
    enumErrors e = [] ↔ e.values ≠ [] ∧ (e.values.map (·.name)).Nodup := by
  simp [enumErrors, repeated_eq_nil_iff]

theorem modelErrors_eq_nil_iff {m : Model} :
    modelErrors m = [] ↔ (m.fields.map (·.name)).Nodup := repeated_eq_nil_iff

theorem unionErrors_eq_nil_iff {types : Declarations} {u : Union} :
    unionErrors types u = [] ↔
      u.members ≠ [] ∧ ∀ m ∈ u.members, (types.resolveText? m.type).isSome := by
  simp [unionErrors, Option.isSome_iff_ne_none]

theorem headerErrors_eq_nil_iff {s : Service} :
    s.headerErrors = [] ↔ (∀ h ∈ s.headers, (s.declarations.resolveText? h.type).isSome) ∧
      (s.headers.map (·.name)).Nodup := by
  simp [headerErrors, repeated_eq_nil_iff, Option.isSome_iff_ne_none]

/-! ### Resources -/

theorem label_injective :
    Function.Injective fun op : Method × Text => op.1.name ++ (" " : Text) ++ op.2 := by
  -- no method has a blank in its name, so it ends at the first one, whatever the path is
  have head : ∀ op : Method × Text,
      (op.1.name ++ (" " : Text) ++ op.2).takeWhile (· != .char ' ') = op.1.name := by
    rintro ⟨method, path⟩
    cases method <;> rfl
  rintro ⟨method, path⟩ ⟨method', path'⟩ h
  have hm : method = method' := by
    apply Method.name_injective
    rw [← head (method, path), ← head (method', path')]
    exact congrArg _ h
  subst hm
  have hp : path = path' := List.append_cancel_left h
  rw [hp]

theorem nodup_label_iff {ops : List Operation} :
    (ops.map Operation.label).Nodup ↔ (ops.map fun op => (op.method, op.path)).Nodup := by
  rw [← List.nodup_map_iff label_injective, List.map_map]
  rfl

theorem resourceErrors_eq_nil_iff {types : Declarations} {r : Resource} :
    resourceErrors types r = [] ↔ r.type ∈ types.names ∧
      (r.operations.map fun op => (op.method, op.path)).Nodup := by
  rw [← nodup_label_iff]
  simp [resourceErrors, repeated_eq_nil_iff]

/-! ### The whole service -/

/-- A service has no errors when each of its checks finds none. -/
theorem errors_eq_nil_iff {s : Service} :
    s.errors = [] ↔ s.typeNameErrors = [] ∧ (∀ e ∈ s.enums, enumErrors e = []) ∧
      (∀ m ∈ s.models, modelErrors m = []) ∧
      (∀ u ∈ s.unions, unionErrors s.declarations u = []) ∧ s.headerErrors = [] ∧
      ∀ r ∈ s.resources, resourceErrors s.declarations r = [] := by
  simp only [errors, List.append_eq_nil_iff, List.flatMap_eq_nil_iff, and_assoc]

end Service

end ServiceContract
