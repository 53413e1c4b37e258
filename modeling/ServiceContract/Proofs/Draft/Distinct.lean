import ServiceContract.Proofs.Draft.OfJson
import ServiceContract.Proofs.Json.Members
import ServiceContract.Validation

/-!
# Distinct keys in documents

No object of a document has a key twice, so neither has any object that a part of the draft is
read from, and the names in one container of a document are all different (`nodup_names`).
-/

namespace ServiceContract

theorem distinct_of_readDocument {text : Text} {members : Json.Members}
    (h : readDocument text = .ok members) : (Json.Value.object members).Distinct := by
  unfold readDocument at h
  split at h
  · cases h
  · split at h
    · cases h
    · cases h
    · cases h
    · rename_i hread
      obtain rfl := Except.ok.inj h
      exact Json.distinct_of_read hread
    · cases h

namespace Draft

variable {o : Json.Members} {key : Text}

theorem distinct_of_mem_objectsOf (h : (Json.Value.object o).Distinct) {inner : Json.Members}
    (hinner : inner ∈ objectsOf o key) : (Json.Value.object inner).Distinct := by
  obtain ⟨v, hv, hm⟩ := List.mem_filterMap.1 hinner
  obtain ⟨-, hitems, -⟩ := h.getD key
  exact (hitems v hv).object_of_members? hm

theorem distinct_of_mem_namedObjectsOf (h : (Json.Value.object o).Distinct)
    {entry : Text × Json.Members} (hentry : entry ∈ namedObjectsOf o key) :
    (Json.Value.object entry.2).Distinct := by
  obtain ⟨⟨name, v⟩, hv, hm⟩ := List.mem_filterMap.1 hentry
  obtain ⟨inner, hinner, rfl⟩ := Option.map_eq_some_iff.1 hm
  obtain ⟨-, -, hmembers⟩ := h.getD key
  exact (hmembers _ hv).object_of_members? hinner

theorem distinct_of_mem_operationObjects (h : (Json.Value.object o).Distinct) {op : Json.Members}
    (hop : op ∈ operationObjects o) : (Json.Value.object op).Distinct := by
  obtain ⟨resource, hresource, hop⟩ := List.mem_flatMap.1 hop
  exact distinct_of_mem_objectsOf (distinct_of_mem_namedObjectsOf h hresource) hop

theorem map_fst_namedObjectsOf_sublist (o : Json.Members) (key : Text) :
    ((namedObjectsOf o key).map (·.1)).Sublist ((o.get? key).getD .null).members.keys := by
  unfold namedObjectsOf
  generalize ((o.get? key).getD .null).members = members
  induction members with
  | nil => exact .slnil
  | cons member rest ih =>
    obtain ⟨k, v⟩ := member
    rw [List.filterMap_cons]
    dsimp only
    cases v.members? with
    | none => exact ih.cons k
    | some inner => exact ih.cons_cons k

/-- The names are the keys of one object, less those whose values are no objects. -/
theorem nodup_names (h : (Json.Value.object o).Distinct) (key : Text) :
    ((namedObjectsOf o key).map (·.1)).Nodup := by
  obtain ⟨hkeys, -, -⟩ := h.getD key
  exact hkeys.sublist (map_fst_namedObjectsOf_sublist o key)

end Draft

end ServiceContract
