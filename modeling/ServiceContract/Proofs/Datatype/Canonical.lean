import ServiceContract.CommandLine.Run
import ServiceContract.Proofs.Datatype.Name

/-!
# Canonical labels

A label is read by its shape: the brackets of a list, the bare word `map`, the brackets of a map,
or none of these.  `Label.IsShape` is said of the containers and names that come out of reading.
The canonical label of a datatype with such a name is read as that container and that name again
(`Label.ofText_label`).  So both texts that are kept of a label denote the type that was found for
it, the text without the blanks around it and the canonical one (`label_denotes_again`).
-/

namespace ServiceContract

namespace Label

variable {t inner : Text}

/-! ### One equation for each shape -/

theorem shapeOf_list (inner : Text) : shapeOf ("[" ++ inner ++ "]") = (.list, inner.trim) := by
  unfold shapeOf
  rw [listName?_eq_some_iff.2 rfl]

theorem shapeOf_word : shapeOf "map" = (.map, Primitive.string.name) := by
  decide

theorem mapName?_map (inner : Text) :
    mapName? ("map[" ++ inner ++ "]") = if .char '\n' ∈ inner then none else some inner := by
  split_ifs with hline
  · by_contra hne
    obtain ⟨name, hname⟩ := Option.ne_none_iff_exists'.1 hne
    obtain ⟨heq, hno⟩ := mapName?_eq_some_iff.1 hname
    rw [List.append_left_inj, List.append_right_inj] at heq
    exact hno (heq ▸ hline)
  · exact mapName?_eq_some_iff.2 ⟨rfl, hline⟩

theorem map_ne_word (inner : Text) : ("map[" ++ inner ++ "]" : Text) ≠ "map" := by
  intro heq
  have hlength := congrArg List.length heq
  simp [Text.ofString] at hlength

/-- The label of a map is not read over a line feed. -/
theorem shapeOf_map (inner : Text) : shapeOf ("map[" ++ inner ++ "]") =
    if .char '\n' ∈ inner then (.singleton, "map[" ++ inner ++ "]") else (.map, inner.trim) := by
  have hlist : listName? ("map[" ++ inner ++ "]") = none := rfl
  unfold shapeOf
  rw [hlist]
  dsimp only
  rw [if_neg (map_ne_word inner), mapName?_map]
  split_ifs <;> rfl

theorem shapeOf_of_not_isContainer (h : ¬ IsContainer t) : shapeOf t = (.singleton, t) := by
  have hsingle := shapeOf_fst_eq_singleton_iff.2 h
  exact Prod.ext hsingle (shapeOf_eq_of_singleton hsingle)

/-! ### What can be read -/

/-- A container and a name that can be read in a label. -/
inductive IsShape : Container → Text → Prop
  | singleton {name : Text} (htrim : name.trim = name) (h : ¬ IsContainer name) :
    IsShape .singleton name
  | list {name : Text} (htrim : name.trim = name) : IsShape .list name
  | map {name : Text} (htrim : name.trim = name) (hline : .char '\n' ∉ name) : IsShape .map name

theorem isShape_shapeOf (h : t.trim = t) : IsShape (shapeOf t).1 (shapeOf t).2 := by
  by_cases hcontainer : IsContainer t
  · obtain ⟨inner, rfl⟩ | rfl | ⟨inner, rfl, hline⟩ := hcontainer
    · rw [shapeOf_list]
      exact .list (Text.trim_trim inner)
    · -- the bare word stands for a map of strings
      rw [shapeOf_word]
      exact .map (by decide) (by decide)
    · rw [shapeOf_map, if_neg hline]
      exact .map (Text.trim_trim inner) fun hmem => hline (Text.mem_of_mem_trim hmem)
  · rw [shapeOf_of_not_isContainer hcontainer]
    exact .singleton h hcontainer

theorem isShape_ofText (t : Text) : IsShape (ofText t).container (ofText t).name :=
  isShape_shapeOf (Text.trim_trim t)

/-! ### Canonical labels are read as they were printed -/

theorem trim_list (inner : Text) : Text.trim ("[" ++ inner ++ "]") = "[" ++ inner ++ "]" :=
  Text.trim_between (by decide) (by decide) inner

theorem trim_map (inner : Text) : Text.trim ("map[" ++ inner ++ "]") = "map[" ++ inner ++ "]" :=
  Text.trim_between (by decide) (by decide) ("ap[" ++ inner)

theorem ofText_of_shapeOf {container : Container} {name : Text} (htrim : t.trim = t)
    (hshape : shapeOf t = (container, name)) : ofText t = ⟨t, name, container⟩ := by
  unfold ofText
  rw [htrim, hshape]

variable {container : Container} {ref : TypeRef}

theorem ofText_label (h : IsShape container ref.name) :
    ofText (Datatype.ofContainer container ref).label =
      ⟨(Datatype.ofContainer container ref).label, ref.name, container⟩ := by
  cases h with
  | singleton htrim hsingle => exact ofText_of_shapeOf htrim (shapeOf_of_not_isContainer hsingle)
  | list htrim =>
    apply ofText_of_shapeOf (trim_list ref.name)
    rw [shapeOf_list, htrim]
  | map htrim hline =>
    apply ofText_of_shapeOf (trim_map ref.name)
    rw [shapeOf_map, if_neg hline, htrim]

/-- The bare word `map` is no canonical label, so reading one draws no warning. -/
theorem label_ne_word (h : IsShape container ref.name) :
    (Datatype.ofContainer container ref).label ≠ "map" := by
  cases h with
  | singleton htrim hsingle => exact fun heq => hsingle (Or.inr (Or.inl heq))
  | list htrim =>
    intro heq
    have hhead := congrArg List.head? heq
    simp [Datatype.ofContainer, Datatype.label, Text.ofString] at hhead
  | map htrim hline => exact map_ne_word ref.name

end Label

namespace Declarations

variable {types : Declarations} {t : Text} {d : Datatype}

theorem resolveText?_eq_some_iff : types.resolveText? t = some d ↔ ∃ ref,
    types.find? ref.name = some ref ∧ ref.name = (Label.ofText t).name ∧
      Datatype.ofContainer (Label.ofText t).container ref = d := by
  unfold resolveText? resolve?
  rw [Option.map_eq_some_iff]
  apply exists_congr
  intro ref
  constructor
  · rintro ⟨hfind, hd⟩
    have hname := find?_name hfind
    exact ⟨hname ▸ hfind, hname, hd⟩
  · rintro ⟨hfind, hname, hd⟩
    exact ⟨hname ▸ hfind, hd⟩

/-- The canonical label of what a text denotes is read without a warning, and it denotes the
same. -/
theorem reads_label (h : types.resolveText? t = some d) :
    (Label.ofText d.label).warnings = [] ∧ types.resolveText? d.label = some d := by
  obtain ⟨ref, hfind, hname, rfl⟩ := resolveText?_eq_some_iff.1 h
  have hshape : Label.IsShape (Label.ofText t).container ref.name := by
    rw [hname]
    exact Label.isShape_ofText t
  constructor
  · rw [Label.warnings, Label.ofText_label hshape, if_neg (Label.label_ne_word hshape)]
  · rw [resolveText?_eq_some_iff, Label.ofText_label hshape]
    exact ⟨ref, hfind, rfl, rfl⟩

end Declarations

namespace CommandLine

/-- The report on a label that denotes a type. -/
theorem resolveReport_eq {types : Declarations} {t : Text} {d : Datatype}
    (h : types.resolveText? t = some d) : resolveReport t types =
      { output := d.label ++ ": " ++ d.form ++ "(" ++ d.ref.kind.name ++ " " ++ d.ref.name ++ ")\n"
        complaints := Text.ofLines ((Label.ofText t).warnings.map fun w => "Warning: " ++ w) } := by
  unfold Declarations.resolveText? at h
  unfold resolveReport
  simp only [h]

end CommandLine

/-- A label that was read is spelled by its text, which denotes what the label denotes.  The
canonical label of what it denotes denotes the same once more, and asking for it prints the same
without a warning. -/
theorem label_denotes_again (types : Declarations) (t : Text) :
    Label.ofText (Label.ofText t).text = Label.ofText t ∧
    (Label.ofText (Label.ofText t).text).warnings = (Label.ofText t).warnings ∧
    types.resolveText? (Label.ofText t).text = types.resolveText? t ∧
    ∀ d, types.resolveText? t = some d → types.resolveText? d.label = some d ∧
      CommandLine.resolveReport d.label types =
        { CommandLine.resolveReport t types with complaints := "" } := by
  have hspelled : Label.ofText (Label.ofText t).text = Label.ofText t := Label.isSpelled_ofText t
  refine ⟨hspelled, by rw [hspelled], types.resolveText?_of_isSpelled hspelled, fun d hd => ?_⟩
  obtain ⟨hquiet, hagain⟩ := Declarations.reads_label hd
  refine ⟨hagain, ?_⟩
  rw [CommandLine.resolveReport_eq hd, CommandLine.resolveReport_eq hagain, hquiet]
  rfl

/-- Declarations whose names look like labels of lists and maps. -/
def bracketedTypes : Declarations := ⟨["map"], ["a]b"], ["[x]"]⟩

theorem bracketedTypes_denote_again :
    bracketedTypes.resolveText? "\t[ [x] ] " = some (.listOf ⟨.union, "[x]"⟩) ∧
    bracketedTypes.resolveText? "[[x]]" = some (.listOf ⟨.union, "[x]"⟩) ∧
    CommandLine.resolveReport "[[x]]" bracketedTypes =
      { CommandLine.resolveReport "\t[ [x] ] " bracketedTypes with complaints := "" } := by
  have hlist : bracketedTypes.resolveText? "\t[ [x] ] " = some (.listOf ⟨.union, "[x]"⟩) := by
    decide
  exact ⟨hlist, (label_denotes_again _ _).2.2.2 _ hlist⟩

end ServiceContract
