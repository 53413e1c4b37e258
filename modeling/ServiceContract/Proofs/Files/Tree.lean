import Mathlib.Data.List.Flatten
import ServiceContract.Proofs.Files.Path

/-!
# Reading files

A path that leads to a file leads to the same one in its plain spelling (`LeadsTo.normalize`): the
names that are left out are steps that stay where they are.  So the text that is read is that of the
file which the path as written leads to, if its content is the encoding of a text
(`readText_eq_ok_iff`).
-/

namespace ServiceContract.Files.Tree

open Outcome

variable {t : Tree} {path : Text} {content : List UInt8}

/-- The path, as it is written, leads to a file with the given content. -/
def LeadsTo (t : Tree) (path : Text) (content : List UInt8) : Prop :=
  ∃ octets, octetsOf path = .ok octets ∧ t.entry octets = .ok (.file content)

/-! ### Walking -/

theorem isDirectory_start (octets : List UInt8) : t.isDirectory (t.start octets) = true := by
  unfold start isDirectory
  split
  · rfl
  · rw [List.isPrefixOf_iff_prefix.2 (List.prefix_refl _)]
    rfl

/-- A place holder is a step that stays in the directory. -/
theorem walk_cons_of_stays {name : Name} {names : List Name}
    (hname : name = [] ∨ name = [point]) {directory : List Name}
    (hd : t.isDirectory directory = true) :
    t.walk directory (name :: names) = t.walk directory names := by
  have hstep : step directory name = directory := if_pos hname
  have hlength : ¬ nameLimit < name.length := by
    rcases hname with rfl | rfl <;> decide
  rw [walk, hstep, if_neg hlength, if_pos hd]

theorem walk_replicate_append (count : Nat) (names : List Name) {directory : List Name}
    (hd : t.isDirectory directory = true) :
    t.walk directory (List.replicate count [] ++ names) = t.walk directory names := by
  induction count with
  | zero => rfl
  | succ count ih =>
    rw [List.replicate_succ, List.cons_append, walk_cons_of_stays (.inl rfl) hd, ih]

/-- A walk to a file along the names of a path is one along the proper names too. -/
theorem walk_filter_isProper {names : List Text} {directory : List Name}
    (hd : t.isDirectory directory = true)
    (h : t.walk directory (names.map (·.flatMap CodePoint.nameOctets)) = .ok (.file content)) :
    t.walk directory ((names.filter isProper).map (·.flatMap CodePoint.nameOctets)) =
      .ok (.file content) := by
  induction names generalizing directory with
  | nil => exact h
  | cons name rest ih =>
    rw [List.map_cons] at h
    by_cases hproper : isProper name = true
    · rw [List.filter_cons_of_pos hproper, List.map_cons]
      rw [walk] at h ⊢
      split at h
      · cases h
      · rename_i hlength
        rw [if_neg hlength]
        split at h
        · rename_i hd'
          rw [if_pos hd']
          exact ih hd' h
        · rename_i hd'
          rw [if_neg hd']
          cases hfile : t.files.lookup (step directory (name.flatMap CodePoint.nameOctets)) with
          | none =>
            rw [hfile] at h
            cases h
          | some octets =>
            rw [hfile] at h
            cases rest with
            | nil => exact h
            | cons next rest => cases h
    · rw [List.filter_cons_of_neg hproper]
      have hname : name.flatMap CodePoint.nameOctets = [] ∨
          name.flatMap CodePoint.nameOctets = [point] := by
        rcases (by simpa [isProper, or_iff_not_imp_left] using hproper : name = [] ∨ name = ".")
          with rfl | rfl
        · exact Or.inl rfl
        · exact Or.inr rfl
      rw [walk_cons_of_stays hname hd] at h
      exact ih hd h

/-! ### Plain spellings -/

theorem start_octets (h : ∀ c ∈ path, ¬ c.IsUnnameable) :
    t.start (path.flatMap CodePoint.nameOctets) =
      if path.head? = some (.char '/') then [] else t.workingDirectory := by
  have hhead : (path.flatMap CodePoint.nameOctets).head? = some slash ↔
      path.head? = some (.char '/') := by
    cases path with
    | nil => simp
    | cons c rest =>
      obtain ⟨octet, others, hoctets⟩ :=
        List.exists_cons_of_ne_nil (CodePoint.nameOctets_ne_nil (h c List.mem_cons_self))
      rw [List.flatMap_cons, hoctets, List.cons_append, List.head?_cons, List.head?_cons,
        Option.some.injEq, Option.some.injEq]
      constructor
      · rintro rfl
        exact (CodePoint.mem_nameOctets_iff (by decide)).1 (hoctets ▸ List.mem_cons_self)
      · rintro rfl
        exact (List.cons.inj hoctets).1.symm
  unfold start
  simp only [hhead]

/-- A path that leads to a file leads to it in its plain spelling. -/
theorem LeadsTo.normalize (h : t.LeadsTo path content) : t.LeadsTo (normalize path) content := by
  obtain ⟨octets, hoctets, hentry⟩ := h
  obtain ⟨hnames, rfl⟩ := octetsOf_eq_ok_iff.1 hoctets
  unfold entry at hentry
  split at hentry
  · cases hentry
  split at hentry
  · cases hentry
  rename_i hlength
  rw [namesOf_octets] at hentry
  have hwalk := walk_filter_isProper (isDirectory_start _) hentry
  have hproper : properNames path ≠ [] := by
    intro hnil
    rw [← properNames, hnil] at hwalk
    cases hwalk
  have hnames' : ∀ c ∈ Files.normalize path, ¬ c.IsUnnameable := by
    intro c hc hname
    obtain ⟨d, hd, hname⟩ := unnameable_normalize_iff.1 ⟨c, hc, hname⟩
    exact hnames d hd hname
  have hne : (Files.normalize path).flatMap CodePoint.nameOctets ≠ [] := by
    obtain ⟨c, hc⟩ := List.exists_mem_of_ne_nil _ (normalize_ne_nil path)
    obtain ⟨octet, hoctet⟩ :=
      List.exists_mem_of_ne_nil _ (CodePoint.nameOctets_ne_nil (hnames' c hc))
    exact List.ne_nil_of_mem (List.mem_flatMap.2 ⟨c, hc, hoctet⟩)
  have hshorter := ((normalize_sublist hproper).flatMap CodePoint.nameOctets).length_le
  have hstart : t.start ((Files.normalize path).flatMap CodePoint.nameOctets) =
      t.start (path.flatMap CodePoint.nameOctets) := by
    rw [start_octets hnames', start_octets hnames]
    simp only [head?_normalize_iff hproper]
  obtain ⟨kept, hkept⟩ := names_normalize hproper
  refine ⟨_, octetsOf_eq_ok_iff.2 ⟨hnames', rfl⟩, ?_⟩
  rw [entry, if_neg (fun h => hne (List.isEmpty_iff.1 h)), if_neg (by omega), namesOf_octets, hkept,
    hstart, List.map_append, List.map_replicate, List.flatMap_nil,
    walk_replicate_append kept _ (isDirectory_start _)]
  exact hwalk

/-! ### Texts of files -/

theorem openFile_eq_ok_iff {octets : List UInt8} :
    t.openFile octets = .ok content ↔ t.entry octets = .ok (.file content) := by
  unfold openFile
  cases t.entry octets with
  | error fault => simp
  | ok entry => cases entry <;> simp

theorem leadsTo_iff : t.LeadsTo path content ↔
    ∃ octets, octetsOf path = .ok octets ∧ t.openFile octets = .ok content := by
  simp only [LeadsTo, openFile_eq_ok_iff]

theorem readText_eq (t : Tree) (path : Text) : t.readText path =
    match octetsOf (Files.normalize path) with
    | .error fault => .error (.badPath fault)
    | .ok octets =>
      match t.openFile octets with
      | .error fault => .error (.unopened (Files.normalize path) fault)
      | .ok content =>
        match Text.decode content with
        | .error fault => .error (.encoding fault)
        | .ok text => .ok text.unifyLineEnds := by
  unfold Tree.readText
  dsimp only
  cases octetsOf (Files.normalize path) with
  | error fault => rfl
  | ok octets =>
    simp only [Except.mapError, bind, Except.bind]
    cases t.openFile octets with
    | error fault => rfl
    | ok content =>
      dsimp only
      cases Text.decode content <;> rfl

theorem LeadsTo.readText_eq (h : t.LeadsTo (Files.normalize path) content) : t.readText path =
    match Text.decode content with
    | .error fault => .error (.encoding fault)
    | .ok text => .ok text.unifyLineEnds := by
  obtain ⟨octets, hoctets, hopen⟩ := leadsTo_iff.1 h
  rw [Tree.readText_eq, hoctets]
  dsimp only
  rw [hopen]

theorem readText_normalize : t.readText (Files.normalize path) = t.readText path := by
  rw [readText_eq, readText_eq, normalize_normalize]

/-- Reading fails at the path itself exactly when the path cannot be looked up. -/
theorem readText_eq_badPath_iff :
    (∃ fault, t.readText path = .error (.badPath fault)) ↔ ∃ c ∈ path, c.IsUnnameable := by
  rw [← unnameable_normalize_iff, ← exists_octetsOf_error_iff, readText_eq]
  cases octetsOf (Files.normalize path) with
  | error fault => simp
  | ok octets =>
    dsimp only
    cases t.openFile octets with
    | error fault => simp
    | ok content =>
      dsimp only
      cases Text.decode content <;> simp

end ServiceContract.Files.Tree
