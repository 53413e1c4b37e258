import ServiceContract.Proofs.Rule.Response
import ServiceContract.Proofs.Validation.Clean

/-!
# Drafts with further declarations

`Draft.declare` puts further enums, unions and models behind those of a draft.  When none of their
names is declared yet, every name that was found before is found as the same type afterwards
(`Declarations.find?_extend`), so each label keeps its meaning, and the model of each resource about
a declared type stays the one that it was.  A draft that follows the rules still follows them if
the new declarations are as the rules want them (`FollowsRules.declare`).
-/

namespace ServiceContract

open Outcome

namespace Declarations

variable {d new : Declarations} {name : Text}

/-- The names of `d` and those of `new` behind them. -/
def extend (d new : Declarations) : Declarations where
  enums := d.enums ++ new.enums
  models := d.models ++ new.models
  unions := d.unions ++ new.unions

/-- None of the names of `new` is one of `d`. -/
def Fresh (d new : Declarations) : Prop := ∀ name ∈ new.names, name ∉ d.names

theorem mem_names : name ∈ d.names ↔ name ∈ d.enums ∨ name ∈ d.models ∨ name ∈ d.unions := by
  rw [names, List.mem_append, List.mem_append, or_assoc]

theorem append_append_perm (a a' b b' : List Text) :
    (a ++ a' ++ (b ++ b')).Perm (a ++ b ++ (a' ++ b')) := by
  rw [List.append_assoc, List.append_assoc]
  exact (List.perm_append_comm_assoc a' b b').append_left a

theorem names_extend_perm : (d.extend new).names.Perm (d.names ++ new.names) := by
  refine ((append_append_perm d.enums new.enums d.models new.models).append_right _).trans ?_
  exact append_append_perm (d.enums ++ d.models) _ d.unions _

theorem mem_names_extend : name ∈ (d.extend new).names ↔ name ∈ d.names ∨ name ∈ new.names := by
  rw [names_extend_perm.mem_iff, List.mem_append]

/-- A name that is found is found as the same type among further names. -/
theorem find?_extend (hnew : d.Fresh new) {ref : TypeRef} (h : d.find? name = some ref) :
    (d.extend new).find? name = some ref := by
  -- a declared name is not new, so no place before the one that has it has it now
  have hold : name ∈ d.names → name ∉ new.enums ∧ name ∉ new.models := by
    intro hmem
    refine ⟨fun hn => ?_, fun hn => ?_⟩
    · exact hnew name (mem_names.2 (Or.inl hn)) hmem
    · exact hnew name (mem_names.2 (Or.inr (Or.inl hn))) hmem
  simp only [find?, extend, List.contains_eq_mem, decide_eq_true_eq, List.mem_append] at h ⊢
  by_cases hprimitive : Primitive.isName name = true
  · rwa [if_pos hprimitive] at h ⊢
  rw [if_neg hprimitive] at h ⊢
  by_cases henum : name ∈ d.enums
  · rw [if_pos (Or.inl henum)]
    rwa [if_pos henum] at h
  rw [if_neg henum] at h
  by_cases hmodel : name ∈ d.models
  · obtain ⟨hne, -⟩ := hold (mem_names.2 (Or.inr (Or.inl hmodel)))
    rw [if_neg (by simp [henum, hne]), if_pos (Or.inl hmodel)]
    rwa [if_pos hmodel] at h
  rw [if_neg hmodel] at h
  by_cases hunion : name ∈ d.unions
  · obtain ⟨hne, hnm⟩ := hold (mem_names.2 (Or.inr (Or.inr hunion)))
    rw [if_neg (by simp [henum, hne]), if_neg (by simp [hmodel, hnm]), if_pos (Or.inl hunion)]
    rwa [if_pos hunion] at h
  · rw [if_neg hunion] at h
    cases h

theorem resolve?_extend (hnew : d.Fresh new) {label : Label} {type : Datatype}
    (h : d.resolve? label = some type) : (d.extend new).resolve? label = some type := by
  obtain ⟨ref, href, rfl⟩ := Option.map_eq_some_iff.1 h
  exact Option.map_eq_some_iff.2 ⟨ref, find?_extend hnew href, rfl⟩

theorem hasType_extend (hnew : d.Fresh new) {type : Option Label} (h : Rule.HasType d type) :
    Rule.HasType (d.extend new) type := by
  obtain ⟨label, hl, hres⟩ := h
  obtain ⟨t, ht⟩ := Option.isSome_iff_exists.1 hres
  exact ⟨label, hl, by rw [resolve?_extend hnew ht]; rfl⟩

end Declarations

/-! ### Drafts -/

namespace Draft

/-- Enums, unions and models that are declared together. -/
structure Declared where
  enums : List Enum := []
  unions : List Union := []
  models : List Model := []

/-- The names that are declared. -/
def Declared.names (new : Declared) : Declarations where
  enums := new.enums.map (·.name)
  models := new.models.map (·.name)
  unions := new.unions.map (·.name)

/-- The draft with further declarations behind its own ones. -/
def declare (d : Draft) (new : Declared) : Draft :=
  { d with
    enums := d.enums ++ new.enums
    unions := d.unions ++ new.unions
    models := d.models ++ new.models }

/-- The elements are all named, and no two of them have one name. -/
def DistinctlyNamed (names : List (Option Text)) : Prop :=
  ∃ texts : List Text, names = texts.map some ∧ texts.Nodup

/-- Declarations on which neither a rule nor a check of a whole service has a message, when the
names of `types` are declared. -/
structure Declared.Clean (types : Declarations) (new : Declared) : Prop where
  enums : ∀ e ∈ new.enums, e.values ≠ [] ∧ DistinctlyNamed (e.values.map (·.name))
  unions : ∀ u ∈ new.unions, u.members ≠ [] ∧ ∀ m ∈ u.members, Rule.HasType types m.type
  models : ∀ m ∈ new.models, (∀ f ∈ m.fields, Rule.HasType types f.type ∧ f.warnings = []) ∧
    DistinctlyNamed (m.fields.map (·.name))

variable {d : Draft} {new : Declared}

theorem declarations_declare : (d.declare new).declarations = d.declarations.extend new.names := by
  simp only [declarations, declare, Declared.names, Declarations.extend, List.map_append]

theorem DistinctlyNamed.isSome {names : List (Option Text)} (h : DistinctlyNamed names) :
    ∀ name ∈ names, name.isSome := by
  obtain ⟨texts, rfl, -⟩ := h
  intro name hname
  obtain ⟨t, -, rfl⟩ := List.mem_map.1 hname
  rfl

theorem findModel?_declare (hnew : d.declarations.Fresh new.names) {name : Text}
    (hname : name ∈ d.declarations.names) : (d.declare new).findModel? name = d.findModel? name := by
  -- a declared name is not new, so none of the further models has it
  have hnone : new.models.find? (fun m => m.name == name) = none := by
    rw [List.find?_eq_none]
    intro m hm heq
    have hmem : m.name ∈ new.names.names :=
      Declarations.mem_names.2 (Or.inr (Or.inl (List.mem_map_of_mem hm)))
    rw [beq_iff_eq.1 heq] at hmem
    exact hnew name hmem hname
  unfold findModel? declare
  rw [List.find?_append, hnone, Option.or_none]

end Draft

/-! ### Rules -/

namespace Rule

variable {d : Draft} {new : Draft.Declared}

theorem placeholderSource_declare (hnew : d.declarations.Fresh new.names) {r : Draft.Resource}
    (hr : r.type.text ∈ d.declarations.names) (op : Draft.Operation) (name : Text) :
    placeholderSource (d.declare new) r op name = placeholderSource d r op name := by
  simp only [placeholderSource, resourceFields, Draft.findModel?_declare hnew hr]

theorem invalidInPath?_extend {types new : Declarations} (hnew : types.Fresh new) {label : Label}
    (h : invalidInPath? types label = none) : invalidInPath? (types.extend new) label = none := by
  unfold invalidInPath? at h ⊢
  cases hres : types.resolve? label with
  | none =>
    rw [hres] at h
    cases h
  | some type =>
    rw [Declarations.resolve?_extend hnew hres]
    rwa [hres] at h

end Rule

/-- A draft whose resources are about declared types goes on to follow the rules when clean
declarations with new names are put behind its own ones. -/
theorem FollowsRules.declare {fetch : Fetch} {d : Draft} {new : Draft.Declared}
    (h : FollowsRules fetch d) (hresources : ∀ r ∈ d.resources, r.type.text ∈ d.declarations.names)
    (hnew : d.declarations.Fresh new.names) (hclean : new.Clean (d.declare new).declarations) :
    FollowsRules fetch (d.declare new) where
  key := h.key
  imports := h.imports
  enums := by
    rw [Rule.enums_eq_nil_iff]
    refine List.forall_mem_append.2 ⟨Rule.enums_eq_nil_iff.1 h.enums, fun e he v hv => ?_⟩
    exact (hclean.enums e he).2.isSome _ (List.mem_map_of_mem hv)
  unions := by
    rw [Rule.unions_eq_nil_iff]
    refine List.forall_mem_append.2 ⟨Rule.unions_eq_nil_iff.1 h.unions, fun u hu m hm => ?_⟩
    obtain ⟨label, hl, -⟩ := (hclean.unions u hu).2 m hm
    rw [hl]
    rfl
  headers := h.headers
  fields := by
    rw [Rule.fields_eq_nil_iff]
    refine List.forall_mem_append.2 ⟨fun m hm f hf => ?_, fun m hm f hf => ?_⟩
    · obtain ⟨hname, htype, hwarnings⟩ := Rule.fields_eq_nil_iff.1 h.fields m hm f hf
      refine ⟨hname, ?_, hwarnings⟩
      rw [Draft.declarations_declare]
      exact Declarations.hasType_extend hnew htype
    · obtain ⟨hfields, hnames⟩ := hclean.models m hm
      obtain ⟨htype, hwarnings⟩ := hfields f hf
      exact ⟨hnames.isSome _ (List.mem_map_of_mem hf), htype, hwarnings⟩
  operations := h.operations
  parameterBodies := by
    rw [Rule.parameterBodies_eq_nil_iff, Draft.declarations_declare]
    intro r hr op hop b hb
    exact Declarations.hasType_extend hnew
      (Rule.parameterBodies_eq_nil_iff.1 h.parameterBodies r hr op hop b hb)
  parameters := by
    rw [Rule.parameters_eq_nil_iff, Draft.declarations_declare]
    intro r hr op hop p hp
    obtain ⟨hname, label, type, hl, hres, hquery⟩ :=
      Rule.parameters_eq_nil_iff.1 h.parameters r hr op hop p hp
    exact ⟨hname, label, type, hl, Declarations.resolve?_extend hnew hres, hquery⟩
  responses := by
    obtain ⟨hops, hcodes⟩ := Rule.responses_eq_ok_nil_iff.1 h.responses
    rw [Rule.responses_eq_ok_nil_iff, Draft.declarations_declare]
    refine ⟨fun r hr op hop => ⟨(hops r hr op hop).1, fun x hx => ?_⟩, hcodes⟩
    obtain ⟨hcode, htype, hwarnings⟩ := (hops r hr op hop).2 x hx
    exact ⟨hcode, Declarations.hasType_extend hnew htype, hwarnings⟩
  pathParameters := by
    rw [Rule.pathParameters_eq_nil_iff, Draft.declarations_declare]
    intro r hr op hop name hname
    rw [Rule.placeholderSource_declare hnew (hresources r hr)]
    exact Rule.invalidInPath?_extend hnew
      (Rule.pathParameters_eq_nil_iff.1 h.pathParameters r hr op hop name hname)
  pathParametersRequired := by
    rw [Rule.pathParametersRequired_eq_nil_iff]
    intro r hr op hop name hname
    rw [Rule.placeholderSource_declare hnew (hresources r hr)]
    exact Rule.pathParametersRequired_eq_nil_iff.1 h.pathParametersRequired r hr op hop name hname

end ServiceContract
