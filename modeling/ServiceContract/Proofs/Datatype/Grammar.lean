import ServiceContract.Proofs.Datatype.Canonical

/-!
# The grammar of labels

`Label.Spells` is the grammar of labels: a name, a name in the brackets of a list or of a map, and
the bare word `map`, with blanks around the whole and inside the brackets.  Where all declared names
are plain, a text denotes a type exactly when this grammar spells it so for a primitive type or a
declared name, with one exception: the label of a map is not read over a line feed.  So blanks
inside the brackets of a map do not count unless one of them is a line feed, and then the label
denotes nothing, as labels of nested and of empty containers do (`denotes_iff_spells`).
-/

namespace ServiceContract

/-! ### Plain names -/

/-- A name that looks like a name and nothing else. -/
@[mk_iff]
structure IsPlainName (name : Text) : Prop where
  ne_nil : name ≠ []
  ne_word : name ≠ "map"
  opening : .char '[' ∉ name
  closing : .char ']' ∉ name
  blanks : ∀ c ∈ name, c.isBlank = false

instance (name : Text) : Decidable (IsPlainName name) :=
  decidable_of_iff' _ (isPlainName_iff name)

namespace IsPlainName

variable {name : Text}

theorem trim_eq (h : IsPlainName name) : name.trim = name :=
  Text.trim_eq_self_iff.2 ⟨fun c hc => h.blanks c (List.mem_of_mem_head? hc),
    fun c hc => h.blanks c (List.mem_of_mem_getLast? hc)⟩

theorem not_isContainer (h : IsPlainName name) : ¬ Label.IsContainer name := by
  rintro (⟨inner, rfl⟩ | rfl | ⟨inner, rfl, -⟩)
  · exact h.closing (List.mem_append_right _ (List.mem_singleton_self _))
  · exact h.ne_word rfl
  · exact h.closing (List.mem_append_right _ (List.mem_singleton_self _))

theorem newline_not_mem (h : IsPlainName name) : .char '\n' ∉ name := by
  intro hmem
  have hblank := h.blanks _ hmem
  revert hblank
  decide

theorem primitive (p : Primitive) : IsPlainName p.name := by
  cases p <;> decide

end IsPlainName

namespace Declarations

/-- A primitive type, or a type that is declared. -/
def Knows (types : Declarations) (name : Text) : Prop :=
  (∃ p : Primitive, p.name = name) ∨ name ∈ types.names

variable {types : Declarations} {name t inner : Text} {container : Container}

theorem isSome_find?_iff : (types.find? name).isSome ↔ types.Knows name := by
  unfold find? Knows names
  cases hprimitive : Primitive.isName name with
  | true =>
    have hknown : ∃ p : Primitive, p.name = name := by
      by_contra! hnone
      rw [Primitive.isName_eq_false_iff.2 hnone] at hprimitive
      cases hprimitive
    simp [hknown]
  | false =>
    have hnone := Primitive.isName_eq_false_iff.1 hprimitive
    simp only [hnone, exists_false, false_or, List.mem_append, List.contains_iff_mem]
    by_cases henum : name ∈ types.enums
    · simp [henum]
    · by_cases hmodel : name ∈ types.models
      · simp [henum, hmodel]
      · by_cases hunion : name ∈ types.unions <;> simp [henum, hmodel, hunion]

theorem Knows.isPlainName (hplain : ∀ name ∈ types.names, IsPlainName name)
    (h : types.Knows name) : IsPlainName name := by
  obtain ⟨p, rfl⟩ | h := h
  · exact IsPlainName.primitive p
  · exact hplain name h

theorem ofContainer_inj {container' : Container} {ref ref' : TypeRef} :
    Datatype.ofContainer container ref = Datatype.ofContainer container' ref' ↔
      container = container' ∧ ref = ref' := by
  cases container <;> cases container' <;> simp [Datatype.ofContainer]

/-- A text denotes a container of a name when it is read so and the name is known. -/
theorem denotes_iff : (∃ kind, types.resolveText? t = some (.ofContainer container ⟨kind, name⟩)) ↔
    types.Knows name ∧ Label.shapeOf t.trim = (container, name) := by
  rw [← isSome_find?_iff]
  constructor
  · rintro ⟨kind, h⟩
    obtain ⟨ref, hfind, hname, hd⟩ := resolveText?_eq_some_iff.1 h
    obtain ⟨hcontainer, rfl⟩ := ofContainer_inj.1 hd
    exact ⟨Option.isSome_of_eq_some hfind, Prod.ext hcontainer hname.symm⟩
  · rintro ⟨hsome, hshape⟩
    obtain ⟨⟨kind, name'⟩, hfind⟩ := Option.isSome_iff_exists.1 hsome
    obtain rfl : name' = name := find?_name hfind
    refine ⟨kind, resolveText?_eq_some_iff.2 ⟨⟨kind, name'⟩, hfind, ?_, ?_⟩⟩
    · exact (congrArg Prod.snd hshape).symm
    · exact congrArg (Datatype.ofContainer · _) (congrArg Prod.fst hshape)

/-- Where all declared names are plain, no other name is found. -/
theorem resolveText?_eq_none (hplain : ∀ name ∈ types.names, IsPlainName name)
    (h : ¬ IsPlainName (Label.shapeOf t.trim).2) : types.resolveText? t = none := by
  by_contra hne
  obtain ⟨d, hd⟩ := Option.ne_none_iff_exists'.1 hne
  obtain ⟨ref, hfind, hname, -⟩ := resolveText?_eq_some_iff.1 hd
  have hknown : types.Knows ref.name := isSome_find?_iff.1 (Option.isSome_of_eq_some hfind)
  rw [hname] at hknown
  exact h (hknown.isPlainName hplain)

theorem resolveText?_congr {t' : Text} (h : Label.shapeOf t.trim = Label.shapeOf t'.trim) :
    types.resolveText? t = types.resolveText? t' := by
  unfold resolveText? resolve? Label.ofText
  rw [h]

end Declarations

/-! ### The grammar -/

namespace Label

variable {name t inner : Text} {container : Container}

/-- The labels of a container of a name. -/
inductive Spells (name : Text) : Container → Text → Prop
  | singleton {t : Text} (h : Text.Padded name t) : Spells name .singleton t
  | list {t inner : Text} (hinner : Text.Padded name inner)
    (h : Text.Padded ("[" ++ inner ++ "]") t) : Spells name .list t
  | map {t inner : Text} (hinner : Text.Padded name inner)
    (h : Text.Padded ("map[" ++ inner ++ "]") t) : Spells name .map t
  | word {t : Text} (hname : name = Primitive.string.name) (h : Text.Padded "map" t) :
    Spells name .map t

theorem newline_mem_map_iff :
    .char '\n' ∈ ("map[" ++ inner ++ "]" : Text) ↔ .char '\n' ∈ inner := by
  simp [Text.ofString]

theorem spells_of_shapeOf (h : shapeOf t.trim = (container, name)) :
    Spells name container t ∧ (container = .map → .char '\n' ∉ t.trim) := by
  have hpadded := Text.padded_trim t
  by_cases hcontainer : IsContainer t.trim
  · obtain ⟨inner, heq⟩ | heq | ⟨inner, heq, hline⟩ := hcontainer <;> rw [heq] at h hpadded
    · rw [shapeOf_list] at h
      obtain ⟨rfl, rfl⟩ := Prod.mk.inj h
      exact ⟨.list (Text.padded_trim inner) hpadded, fun hmap => by cases hmap⟩
    · rw [shapeOf_word] at h
      obtain ⟨rfl, rfl⟩ := Prod.mk.inj h
      exact ⟨.word rfl hpadded, fun _ => heq ▸ by decide⟩
    · rw [shapeOf_map, if_neg hline] at h
      obtain ⟨rfl, rfl⟩ := Prod.mk.inj h
      exact ⟨.map (Text.padded_trim inner) hpadded,
        fun _ => heq ▸ fun hmem => hline (newline_mem_map_iff.1 hmem)⟩
  · rw [shapeOf_of_not_isContainer hcontainer] at h
    obtain ⟨rfl, rfl⟩ := Prod.mk.inj h
    exact ⟨.singleton hpadded, fun hmap => by cases hmap⟩

theorem shapeOf_of_spells (hplain : IsPlainName name) (h : Spells name container t)
    (hline : container = .map → .char '\n' ∉ t.trim) : shapeOf t.trim = (container, name) := by
  cases h with
  | singleton h =>
    rw [h.trim_eq, hplain.trim_eq]
    exact shapeOf_of_not_isContainer hplain.not_isContainer
  | list hinner h => rw [h.trim_eq, trim_list, shapeOf_list, hinner.trim_eq, hplain.trim_eq]
  | map hinner h =>
    have hno := hline rfl
    rw [h.trim_eq, trim_map, newline_mem_map_iff] at hno
    rw [h.trim_eq, trim_map, shapeOf_map, if_neg hno, hinner.trim_eq, hplain.trim_eq]
  | word hname h =>
    rw [h.trim_eq, hname]
    decide

theorem not_isPlainName_map (h : .char '\n' ∈ inner) :
    ¬ IsPlainName ("map[" ++ inner ++ "]") :=
  fun hname => hname.newline_not_mem (newline_mem_map_iff.2 h)

/-- What is in the brackets of a label without being a plain name is not found. -/
theorem not_isPlainName_of_bracketed (h : Text.Padded ("[" ++ inner ++ "]") t ∨
    Text.Padded ("map[" ++ inner ++ "]") t) (hinner : ¬ IsPlainName inner.trim) :
    ¬ IsPlainName (shapeOf t.trim).2 := by
  rcases h with h | h
  · rw [h.trim_eq, trim_list, shapeOf_list]
    exact hinner
  · rw [h.trim_eq, trim_map, shapeOf_map]
    split_ifs with hline
    · exact not_isPlainName_map hline
    · exact hinner

end Label

/-- Nothing that is empty, the bare word `map` or has a bracket in it is a plain name. -/
theorem not_isPlainName_trim {inner : Text} (h : inner.trim = [] ∨ inner.trim = "map" ∨
    .char '[' ∈ inner ∨ .char ']' ∈ inner) : ¬ IsPlainName inner.trim := by
  intro hplain
  rcases h with hnil | hword | hopening | hclosing
  · exact hplain.ne_nil hnil
  · exact hplain.ne_word hword
  · exact hplain.opening ((Text.mem_trim_iff (by decide)).2 hopening)
  · exact hplain.closing ((Text.mem_trim_iff (by decide)).2 hclosing)

namespace Declarations

variable {types : Declarations}

theorem resolveText?_list_trim (types : Declarations) (inner : Text) :
    types.resolveText? ("[" ++ inner ++ "]") = types.resolveText? ("[" ++ inner.trim ++ "]") := by
  apply resolveText?_congr
  rw [Label.trim_list, Label.trim_list, Label.shapeOf_list, Label.shapeOf_list, Text.trim_trim]

theorem resolveText?_map_trim (hplain : ∀ name ∈ types.names, IsPlainName name) (inner : Text) :
    types.resolveText? ("map[" ++ inner ++ "]") =
      if .char '\n' ∈ inner then none else types.resolveText? ("map[" ++ inner.trim ++ "]") := by
  split_ifs with hline
  · apply resolveText?_eq_none hplain
    rw [Label.trim_map, Label.shapeOf_map, if_pos hline]
    exact Label.not_isPlainName_map hline
  · have hline' : .char '\n' ∉ inner.trim := fun hmem => hline (Text.mem_of_mem_trim hmem)
    apply resolveText?_congr
    rw [Label.trim_map, Label.trim_map, Label.shapeOf_map, Label.shapeOf_map, if_neg hline,
      if_neg hline', Text.trim_trim]

end Declarations

/-- Where all declared names are plain, a text denotes a container of a name exactly when the name
is known and the grammar spells the container so, in the case of a map without a line feed.  The
labels of empty and of nested containers denote nothing.  Blanks at the ends of what stands in
brackets do not count in the label of a list, and in that of a map only a line feed does: with one
it denotes nothing. -/
theorem denotes_iff_spells {types : Declarations}
    (hplain : ∀ name ∈ types.names, IsPlainName name) :
    (∀ t container name,
      (∃ kind, types.resolveText? t = some (.ofContainer container ⟨kind, name⟩)) ↔
        types.Knows name ∧ Label.Spells name container t ∧
          (container = .map → .char '\n' ∉ t.trim)) ∧
    (∀ t inner, Text.Padded ("[" ++ inner ++ "]") t ∨ Text.Padded ("map[" ++ inner ++ "]") t →
      inner.trim = [] ∨ inner.trim = "map" ∨ .char '[' ∈ inner ∨ .char ']' ∈ inner →
        types.resolveText? t = none) ∧
    (∀ inner, types.resolveText? ("[" ++ inner ++ "]") =
      types.resolveText? ("[" ++ inner.trim ++ "]")) ∧
    ∀ inner, types.resolveText? ("map[" ++ inner ++ "]") =
      if .char '\n' ∈ inner then none else types.resolveText? ("map[" ++ inner.trim ++ "]") := by
  refine ⟨fun t container name => ?_, fun t inner ht hinner => ?_,
    Declarations.resolveText?_list_trim types, Declarations.resolveText?_map_trim hplain⟩
  · rw [Declarations.denotes_iff]
    apply and_congr_right
    intro hknown
    constructor
    · exact Label.spells_of_shapeOf
    · rintro ⟨hspells, hline⟩
      exact Label.shapeOf_of_spells (hknown.isPlainName hplain) hspells hline
  · apply Declarations.resolveText?_eq_none hplain
    exact Label.not_isPlainName_of_bracketed ht (not_isPlainName_trim hinner)

/-- Declarations with plain names. -/
def plainTypes : Declarations := ⟨["kind"], ["user"], []⟩

theorem plainTypes_denote :
    (∀ name ∈ plainTypes.names, IsPlainName name) ∧
    (∃ kind, plainTypes.resolveText? "\u3000map[\tuser ]\n" =
      some (.ofContainer .map ⟨kind, "user"⟩)) ∧
    plainTypes.resolveText? "map[[user]]" = none := by
  have hplain : ∀ name ∈ plainTypes.names, IsPlainName name := by decide
  have hinner : Text.Padded "user" "\tuser " := ⟨"\t", " ", by decide, by decide, rfl⟩
  have hlabel : Text.Padded ("map[" ++ Text.ofString "\tuser " ++ "]") "\u3000map[\tuser ]\n" :=
    ⟨"\u3000", "\n", by decide, by decide, rfl⟩
  have hnested : Text.Padded ("map[" ++ Text.ofString "[user]" ++ "]") "map[[user]]" :=
    ⟨[], [], rfl, rfl, rfl⟩
  obtain ⟨hspelled, hbrackets, -⟩ := denotes_iff_spells hplain
  refine ⟨hplain, ?_, hbrackets _ _ (Or.inr hnested) (Or.inr (Or.inr (Or.inl (by decide))))⟩
  exact (hspelled _ _ _).2 ⟨Or.inr (by decide), .map hinner hlabel, fun _ => by decide⟩

/-- Not every label that the grammar spells denotes a type. -/
theorem exists_spelled_unresolved : ∃ types : Declarations, ∃ t name,
    (∀ name ∈ types.names, IsPlainName name) ∧ types.Knows name ∧ Label.Spells name .map t ∧
      types.resolveText? t = none := by
  have hinner : Text.Padded "user" "\nuser" := ⟨"\n", [], by decide, rfl, rfl⟩
  have hlabel : Text.Padded ("map[" ++ Text.ofString "\nuser" ++ "]") "map[\nuser]" :=
    ⟨[], [], rfl, rfl, rfl⟩
  exact ⟨plainTypes, "map[\nuser]", "user", by decide, Or.inr (by decide), .map hinner hlabel,
    by decide⟩

end ServiceContract
