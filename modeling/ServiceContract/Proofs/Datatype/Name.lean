import ServiceContract.Datatype.Resolution
import ServiceContract.Proofs.Draft.Label

/-!
# Names as labels

Any text can be declared as the name of a type, but not every name is a label of its own type: a
label is read without the blanks around it, some texts are labels of lists and maps, and primitive
types are looked up first.  `Label.IsBare` is said of the texts that a label leaves as they are;
where no name is declared twice, a declared name denotes its declaration exactly when it is one of
these and not the name of a primitive type (`Declarations.resolveText?_declared_iff`).
-/

namespace ServiceContract

/-! ### Shapes of labels -/

namespace Label

theorem beforeBracket?_eq_some_iff {t inner : Text} :
    beforeBracket? t = some inner ↔ t = inner ++ "]" := by
  unfold beforeBracket?
  constructor
  · intro h
    obtain ⟨hlast, h⟩ := Option.ite_none_right_eq_some.1 h
    rw [← Option.some.inj h]
    exact (List.dropLast_append_getLast? _ hlast).symm
  · intro h
    have hsplit : t = inner ++ [.char ']'] := h
    rw [hsplit, if_pos List.getLast?_concat, List.dropLast_concat]

theorem listName?_eq_some_iff {t inner : Text} :
    listName? t = some inner ↔ t = "[" ++ inner ++ "]" := by
  unfold listName?
  split
  · rw [beforeBracket?_eq_some_iff]
    exact (List.cons_inj_right _).symm
  · rename_i hne
    exact iff_of_false (Option.some_ne_none _).symm (hne _)

theorem mapName?_eq_some_iff {t inner : Text} :
    mapName? t = some inner ↔ t = "map[" ++ inner ++ "]" ∧ .char '\n' ∉ inner := by
  unfold mapName?
  split
  · rw [Option.filter_eq_some_iff, beforeBracket?_eq_some_iff]
    have hassoc : ("map[" ++ inner ++ "]" : Text) = "map[" ++ (inner ++ "]") := rfl
    rw [hassoc]
    exact and_congr (List.append_right_inj (Text.ofString "map[")).symm (by simp)
  · rename_i hne
    exact iff_of_false (Option.some_ne_none _).symm fun h => hne _ h.1

/-- The label of a list or of a map, with a name in it or as the bare word `map`. -/
def IsContainer (t : Text) : Prop :=
  (∃ inner, t = "[" ++ inner ++ "]") ∨ t = "map" ∨
    ∃ inner, t = "map[" ++ inner ++ "]" ∧ .char '\n' ∉ inner

theorem shapeOf_fst_eq_singleton_iff {t : Text} :
    (shapeOf t).1 = .singleton ↔ ¬ IsContainer t := by
  unfold shapeOf IsContainer
  simp only [← listName?_eq_some_iff, ← mapName?_eq_some_iff]
  cases listName? t with
  | some name => simp
  | none =>
    by_cases hword : t = "map"
    · simp [hword]
    · cases mapName? t <;> simp [hword]

theorem shapeOf_eq_of_singleton {t : Text} (h : (shapeOf t).1 = .singleton) :
    (shapeOf t).2 = t := by
  unfold shapeOf at h ⊢
  cases hlist : listName? t with
  | some name =>
    rw [hlist] at h
    cases h
  | none =>
    rw [hlist] at h
    dsimp only at h ⊢
    by_cases hbare : t = "map"
    · rw [if_pos hbare] at h
      cases h
    · rw [if_neg hbare] at h ⊢
      cases hmap : mapName? t with
      | some name =>
        rw [hmap] at h
        cases h
      | none => rfl

theorem name_of_container_eq_singleton {label : Label} (h : label.IsSpelled)
    (hc : label.container = .singleton) : label.name = label.text := by
  have htrim : label.text.trim = label.text := congrArg Label.text h
  have hname : (shapeOf label.text.trim).2 = label.name := congrArg Label.name h
  have hcontainer : (shapeOf label.text.trim).1 = label.container := congrArg Label.container h
  rw [htrim] at hname hcontainer
  rw [← hname]
  exact shapeOf_eq_of_singleton (hcontainer.trans hc)

/-- A text that is a name and nothing more: it has no blanks at its ends, and it is not the label
of a container. -/
structure IsBare (t : Text) : Prop where
  first : ∀ c ∈ t.head?, c.isBlank = false
  last : ∀ c ∈ t.getLast?, c.isBlank = false
  single : ¬ IsContainer t

theorem isBare_iff {t : Text} : IsBare t ↔ t.trim = t ∧ (ofText t).container = .singleton := by
  constructor
  · rintro ⟨first, last, single⟩
    have htrim := Text.trim_eq_self_iff.2 ⟨first, last⟩
    refine ⟨htrim, ?_⟩
    change (shapeOf t.trim).1 = .singleton
    rw [htrim]
    exact shapeOf_fst_eq_singleton_iff.2 single
  · rintro ⟨htrim, hsingle⟩
    change (shapeOf t.trim).1 = .singleton at hsingle
    rw [htrim] at hsingle
    obtain ⟨first, last⟩ := Text.trim_eq_self_iff.1 htrim
    exact ⟨first, last, shapeOf_fst_eq_singleton_iff.1 hsingle⟩

end Label

/-! ### Declared names -/

theorem Primitive.isName_eq_false_iff {name : Text} :
    Primitive.isName name = false ↔ ∀ p : Primitive, p.name ≠ name := by
  rw [Primitive.isName, Option.isSome_eq_false_iff, Option.isNone_iff_eq_none, Primitive.ofName?,
    List.find?_eq_none]
  simp [Primitive.mem_all]

/-- The name is declared as a type of the kind. -/
inductive Declarations.Declares (types : Declarations) (name : Text) : TypeKind → Prop
  | enumeration (h : name ∈ types.enums) : Declares types name .enumeration
  | model (h : name ∈ types.models) : Declares types name .model
  | union (h : name ∈ types.unions) : Declares types name .union

namespace Declarations

variable {types : Declarations} {name : Text} {kind : TypeKind}

theorem find?_name {ref : TypeRef} (h : types.find? name = some ref) : ref.name = name := by
  unfold find? at h
  split_ifs at h <;> exact Option.some.inj h ▸ rfl

/-- Where no name is declared twice, only primitive types can hide a declaration. -/
theorem find?_declared_iff (hnodup : types.names.Nodup) (h : types.Declares name kind) :
    types.find? name = some ⟨kind, name⟩ ↔ Primitive.isName name = false := by
  obtain ⟨hearlier, -, hunions⟩ := List.nodup_append.1 hnodup
  obtain ⟨-, -, hmodels⟩ := List.nodup_append.1 hearlier
  unfold find?
  by_cases hprimitive : Primitive.isName name = true
  · rw [if_pos hprimitive, hprimitive]
    cases h <;> simp
  · rw [if_neg hprimitive]
    refine iff_of_true ?_ (by simpa using hprimitive)
    cases h with
    | enumeration h => simp [h]
    | model h =>
      have henums : name ∉ types.enums := fun hmem => hmodels name hmem name h rfl
      simp [henums, h]
    | union h =>
      have hothers : name ∉ types.enums ++ types.models :=
        fun hmem => hunions name hmem name h rfl
      rw [List.mem_append, not_or] at hothers
      simp [hothers, h]

/-- A name denotes a scalar of its own name when it is bare and its kind is found. -/
theorem resolveText?_eq_scalar_iff : types.resolveText? name = some (.scalar ⟨kind, name⟩) ↔
    Label.IsBare name ∧ types.find? name = some ⟨kind, name⟩ := by
  rw [Label.isBare_iff]
  unfold resolveText? resolve?
  rw [Option.map_eq_some_iff]
  constructor
  · rintro ⟨ref, href, hscalar⟩
    have hsingle : (Label.ofText name).container = .singleton := by
      cases hc : (Label.ofText name).container <;> simp [hc, Datatype.ofContainer] at hscalar ⊢
    rw [hsingle] at hscalar
    obtain rfl : ref = ⟨kind, name⟩ := Datatype.scalar.inj hscalar
    have hname : (Label.ofText name).name = name := (find?_name href).symm
    have htext := Label.name_of_container_eq_singleton (Label.isSpelled_ofText name) hsingle
    rw [hname] at href htext
    exact ⟨⟨htext.symm, hsingle⟩, href⟩
  · rintro ⟨⟨htrim, hsingle⟩, hfind⟩
    have hname : (Label.ofText name).name = name := by
      rw [Label.name_of_container_eq_singleton (Label.isSpelled_ofText name) hsingle,
        Label.text_ofText, htrim]
    rw [hname, hsingle]
    exact ⟨_, hfind, rfl⟩

/-- Where no name is declared twice, a declared name denotes its declaration when it is bare and no
primitive type has it. -/
theorem resolveText?_declared_iff (hnodup : types.names.Nodup) (h : types.Declares name kind) :
    types.resolveText? name = some (.scalar ⟨kind, name⟩) ↔
      Label.IsBare name ∧ ∀ p : Primitive, p.name ≠ name := by
  rw [resolveText?_eq_scalar_iff, find?_declared_iff hnodup h, Primitive.isName_eq_false_iff]

end Declarations

end ServiceContract
