import ServiceContract.Files.Tree
import ServiceContract.Proofs.Outcome
import ServiceContract.Proofs.Text.Encoding
import ServiceContract.Proofs.Text.Pieces
import ServiceContract.Proofs.Text.Utf8

/-!
# Paths and their octets

A path has octets unless it holds the null character or a surrogate that stands for no octet
(`octetsOf_eq_ok_iff`).  Its plain spelling has fewer names, but no other ones: it leaves out the
empty names and the single points behind the slashes at the front.  The names in the octets of a
path are the octets of the names in it (`namesOf_octets`).
-/

namespace ServiceContract

/-! ### Code points of names -/

/-- The code point can be part of no path: it is the null character, or a surrogate that stands for
no octet. -/
def CodePoint.IsUnnameable (c : CodePoint) : Prop :=
  c = .char '\x00' ∨ c.isSurrogate = true ∧ c.nameOctet? = none

/-- The octet of an ASCII character is part of the octets of that character alone. -/
theorem CodePoint.mem_nameOctets_iff {c : CodePoint} {octet : UInt8} (h : octet.toNat < 0x80) :
    octet ∈ c.nameOctets ↔ c = .char (Char.ofNat octet.toNat) := by
  cases c with
  | char c =>
    have hnat : (Char.ofNat octet.toNat).toNat = octet.toNat :=
      Text.toNat_ofNat_of_isValidChar (Or.inl (by omega))
    rw [CodePoint.nameOctets, Text.mem_utf8EncodeChar_iff h, CodePoint.char.injEq,
      ← Char.toNat_inj, hnat]
  | surrogate index =>
    simp only [CodePoint.nameOctets, Option.mem_toList, reduceCtorEq, iff_false]
    intro hmem
    unfold CodePoint.nameOctet? at hmem
    obtain ⟨⟨hlow, hhigh⟩, heq⟩ := Option.ite_none_right_eq_some.1 hmem
    rw [← Option.some.inj heq, UInt8.toNat_ofNat'] at h
    omega

theorem CodePoint.nameOctets_ne_nil {c : CodePoint} (h : ¬ c.IsUnnameable) :
    c.nameOctets ≠ [] := by
  cases c with
  | char c => exact String.utf8EncodeChar_ne_nil
  | surrogate index =>
    have hoctet : (CodePoint.surrogate index).nameOctet? ≠ none := fun hnone =>
      h (Or.inr ⟨rfl, hnone⟩)
    obtain ⟨octet, hsome⟩ := Option.ne_none_iff_exists'.1 hoctet
    rw [CodePoint.nameOctets, hsome]
    exact List.cons_ne_nil _ _

namespace Files

variable {path : Text} {octets : List UInt8}

/-! ### Octets of paths -/

theorem nameOctets_eq_ok_iff : path.nameOctets = .ok octets ↔
    (∀ c ∈ path, c.isSurrogate = true → c.nameOctet?.isSome = true) ∧
      octets = path.flatMap CodePoint.nameOctets := by
  unfold Text.nameOctets
  rw [← Text.faultExcept?_eq_none_iff]
  cases Text.faultExcept? (fun c => c.nameOctet?.isSome) path <;> simp [eq_comm]

/-- A path has the octets of its code points, unless it holds one that no path has. -/
theorem octetsOf_eq_ok_iff : octetsOf path = .ok octets ↔
    (∀ c ∈ path, ¬ c.IsUnnameable) ∧ octets = path.flatMap CodePoint.nameOctets := by
  have hnull : (0 : UInt8) ∈ path.flatMap CodePoint.nameOctets ↔ .char '\x00' ∈ path := by
    rw [List.mem_flatMap]
    constructor
    · rintro ⟨c, hc, hmem⟩
      rwa [(CodePoint.mem_nameOctets_iff (by decide)).1 hmem] at hc
    · intro hc
      exact ⟨_, hc, (CodePoint.mem_nameOctets_iff (by decide)).2 rfl⟩
  have hclass : (∀ c ∈ path, ¬ c.IsUnnameable) ↔ .char '\x00' ∉ path ∧
      ∀ c ∈ path, c.isSurrogate = true → c.nameOctet?.isSome = true := by
    simp only [CodePoint.IsUnnameable, not_or, not_and, ← Option.isSome_iff_ne_none, forall_and]
    exact and_congr_left fun _ => ⟨fun h hmem => h _ hmem rfl, fun h c hc heq => h (heq ▸ hc)⟩
  rw [hclass]
  unfold octetsOf
  cases h : path.nameOctets with
  | error fault =>
    simp only [reduceCtorEq, false_iff]
    rintro ⟨⟨-, hsurrogates⟩, rfl⟩
    rw [nameOctets_eq_ok_iff.2 ⟨hsurrogates, rfl⟩] at h
    cases h
  | ok octets' =>
    obtain ⟨hsurrogates, rfl⟩ := nameOctets_eq_ok_iff.1 h
    dsimp only
    by_cases hmem : (0 : UInt8) ∈ path.flatMap CodePoint.nameOctets
    · rw [if_pos (List.contains_iff_mem.2 hmem)]
      simp [hnull.1 hmem]
    · rw [if_neg (fun hcontains => hmem (List.contains_iff_mem.1 hcontains))]
      simp only [Except.ok.injEq]
      exact ⟨fun h => ⟨⟨fun hc => hmem (hnull.2 hc), hsurrogates⟩, h.symm⟩, fun h => h.2.symm⟩

theorem exists_octetsOf_error_iff :
    (∃ fault, octetsOf path = .error fault) ↔ ∃ c ∈ path, c.IsUnnameable := by
  have hok : (∃ octets, octetsOf path = .ok octets) ↔ ∀ c ∈ path, ¬ c.IsUnnameable := by
    simp only [octetsOf_eq_ok_iff, exists_and_left, exists_eq, and_true]
  rw [← Outcome.isOk_eq_false_iff, ← Bool.not_eq_true, Outcome.isOk_iff, hok]
  push Not
  rfl

/-! ### Names -/

/-- The names in a path, the empty ones among them. -/
def names (path : Text) : List Text := Text.pieces (.char '/') path

/-- A name that is more than a place holder: neither empty nor a single point. -/
def isProper (name : Text) : Bool := !(name.isEmpty || name == ".")

theorem join_names (path : Text) : Text.join "/" (names path) = path :=
  Text.intercalate_pieces (CodePoint.char '/') path

theorem slash_not_mem_of_mem_names {name : Text} (h : name ∈ names path) : .char '/' ∉ name :=
  Text.not_mem_of_mem_pieces h

theorem names_join {texts : List Text} (hne : texts ≠ [])
    (h : ∀ name ∈ texts, .char '/' ∉ name) : names (Text.join "/" texts) = texts :=
  Text.pieces_intercalate hne h

/-- The names in the octets of a path are the octets of the names in the path. -/
theorem namesOf_octets (path : Text) : namesOf (path.flatMap CodePoint.nameOctets) =
    (names path).map (·.flatMap CodePoint.nameOctets) := by
  have hslash : ∀ c : CodePoint, slash ∈ c.nameOctets ↔ c = .char '/' := fun c =>
    CodePoint.mem_nameOctets_iff (by decide)
  conv => lhs; rw [← join_names path]
  unfold Text.join
  rw [Text.flatMap_intercalate]
  refine Text.pieces_intercalate ?_ ?_
  · rw [ne_eq, List.map_eq_nil_iff]
    exact Text.pieces_ne_nil _ _
  · intro name hname hmem
    obtain ⟨text, htext, rfl⟩ := List.mem_map.1 hname
    obtain ⟨c, hc, hc'⟩ := List.mem_flatMap.1 hmem
    rw [(hslash c).1 hc'] at hc
    exact slash_not_mem_of_mem_names htext hc

theorem names_replicate_append (count : Nat) (path : Text) :
    names (List.replicate count (.char '/') ++ path) = List.replicate count [] ++ names path := by
  induction count with
  | zero => rfl
  | succ count ih =>
    rw [List.replicate_succ, List.replicate_succ, List.cons_append, List.cons_append, ← ih, names,
      Text.pieces, if_pos rfl]
    rfl

/-! ### Plain spellings -/

/-- The names that the plain spelling of a path keeps. -/
def properNames (path : Text) : List Text := (names path).filter isProper

theorem filter_isProper_replicate (count : Nat) :
    (List.replicate count ([] : Text)).filter isProper = [] := by
  rw [List.filter_eq_nil_iff]
  intro name hname
  rw [List.eq_of_mem_replicate hname]
  decide

/-- As many slashes are kept at the front as the path has there, or fewer, but not none of some. -/
theorem exists_rootOf_eq (path : Text) :
    ∃ kept count rest, rootOf path = List.replicate kept (.char '/') ∧
      path = List.replicate count (.char '/') ++ rest ∧ rest.head? ≠ some (.char '/') ∧
      kept ≤ count ∧ (kept = 0 → count = 0) := by
  have hslashes : path.takeWhile (· == .char '/') =
      List.replicate (path.takeWhile (· == .char '/')).length (.char '/') :=
    List.eq_replicate_iff.2 ⟨rfl, fun c hc => by simpa using List.mem_takeWhile_imp hc⟩
  have hrest : (path.dropWhile (· == .char '/')).head? ≠ some (.char '/') := by
    intro h
    have := List.head?_dropWhile_not (· == CodePoint.char '/') path
    rw [h] at this
    simp at this
  have hpath := (List.takeWhile_append_dropWhile (p := (· == CodePoint.char '/')) (l := path)).symm
  rw [hslashes] at hpath
  unfold rootOf
  split
  · rename_i h
    rw [h] at hpath
    exact ⟨0, 0, _, rfl, hpath, hrest, Nat.le_refl _, fun _ => rfl⟩
  · rename_i h
    rw [h] at hpath
    exact ⟨2, 2, _, rfl, hpath, hrest, Nat.le_refl _, fun h => by cases h⟩
  · rename_i h _
    refine ⟨1, _, _, rfl, hpath, hrest, Nat.one_le_iff_ne_zero.2 h, fun h => by cases h⟩

theorem normalize_eq (path : Text) : normalize path =
    if (rootOf path ++ Text.join "/" (properNames path)).isEmpty then Text.ofString "."
    else rootOf path ++ Text.join "/" (properNames path) := rfl

theorem normalize_ne_nil (path : Text) : normalize path ≠ [] := by
  rw [normalize_eq]
  split
  · exact List.cons_ne_nil _ _
  · rename_i h
    exact fun hnil => h (List.isEmpty_iff.2 hnil)

theorem properNames_ne_nil_of_mem {name : Text} (h : name ∈ properNames path) :
    name ≠ [] ∧ name ≠ "." := by
  simpa [isProper] using (List.mem_filter.1 h).2

theorem normalize_of_ne_nil (h : properNames path ≠ []) :
    normalize path = rootOf path ++ Text.join "/" (properNames path) := by
  have hne : Text.join "/" (properNames path) ≠ [] := by
    obtain ⟨name, hname⟩ := List.exists_mem_of_ne_nil _ h
    obtain ⟨c, hc⟩ := List.exists_mem_of_ne_nil _ (properNames_ne_nil_of_mem hname).1
    have hslash : c ∉ Text.ofString "/" := fun hmem => by
      rw [List.mem_singleton.1 hmem] at hc
      exact slash_not_mem_of_mem_names (List.mem_filter.1 hname).1 hc
    exact List.ne_nil_of_mem ((Text.mem_intercalate_iff hslash).2 ⟨name, hname, hc⟩)
  rw [normalize_eq, if_neg]
  rw [List.isEmpty_iff, List.append_eq_nil_iff]
  exact fun hnil => hne hnil.2

/-- Apart from slashes and points, the plain spelling has the code points of the path. -/
theorem mem_normalize_iff {c : CodePoint} (hslash : c ≠ '/') (hpoint : c ≠ '.') :
    c ∈ normalize path ↔ c ∈ path := by
  have hseparator : c ∉ Text.ofString "/" := fun hmem => hslash (List.mem_singleton.1 hmem)
  have hplain : c ∈ rootOf path ++ Text.join "/" (properNames path) ↔ c ∈ path := by
    obtain ⟨kept, -, -, hroot, -⟩ := exists_rootOf_eq path
    have hroot : c ∉ rootOf path := fun hmem =>
      hslash (List.eq_of_mem_replicate (hroot ▸ hmem))
    conv => rhs; rw [← join_names path]
    unfold Text.join
    rw [List.mem_append, Text.mem_intercalate_iff hseparator, Text.mem_intercalate_iff hseparator]
    simp only [hroot, false_or, properNames, List.mem_filter]
    constructor
    · rintro ⟨name, ⟨hname, -⟩, hc⟩
      exact ⟨name, hname, hc⟩
    · rintro ⟨name, hname, hc⟩
      -- a name with such a code point is no place holder
      have hproper : isProper name = true := by
        have hne : name ≠ [] := List.ne_nil_of_mem hc
        have hword : name ≠ "." := by
          rintro rfl
          exact hpoint (List.mem_singleton.1 hc)
        simpa [isProper, hne] using hword
      exact ⟨name, ⟨hname, hproper⟩, hc⟩
  rw [normalize_eq, ← hplain]
  split
  · rename_i hempty
    rw [List.isEmpty_iff.1 hempty]
    exact iff_of_false (fun hmem => hpoint (List.mem_singleton.1 hmem)) List.not_mem_nil
  · rfl

theorem unnameable_normalize_iff :
    (∃ c ∈ normalize path, c.IsUnnameable) ↔ ∃ c ∈ path, c.IsUnnameable := by
  have hother : ∀ c : CodePoint, c.IsUnnameable → c ≠ '/' ∧ c ≠ '.' := by
    rintro c (rfl | ⟨hsurrogate, -⟩)
    · decide
    · constructor
      · rintro rfl
        cases hsurrogate
      · rintro rfl
        cases hsurrogate
  constructor
  · rintro ⟨c, hc, h⟩
    exact ⟨c, (mem_normalize_iff (hother c h).1 (hother c h).2).1 hc, h⟩
  · rintro ⟨c, hc, h⟩
    exact ⟨c, (mem_normalize_iff (hother c h).1 (hother c h).2).2 hc, h⟩

/-- Of a path with a proper name the plain spelling only drops slashes and points. -/
theorem normalize_sublist (h : properNames path ≠ []) : (normalize path).Sublist path := by
  obtain ⟨kept, count, rest, hroot, hpath, -, hle, -⟩ := exists_rootOf_eq path
  have hproper : properNames path = properNames rest := by
    conv => lhs; rw [hpath]
    rw [properNames, names_replicate_append, List.filter_append, filter_isProper_replicate]
    rfl
  rw [normalize_of_ne_nil h, hroot, hproper]
  conv => rhs; rw [hpath, ← join_names rest]
  refine List.Sublist.append (List.replicate_sublist_replicate _ |>.2 hle) ?_
  exact Text.intercalate_sublist _ (List.filter_sublist)

theorem names_normalize (h : properNames path ≠ []) :
    ∃ kept, names (normalize path) = List.replicate kept [] ++ properNames path := by
  obtain ⟨kept, -, -, hroot, -⟩ := exists_rootOf_eq path
  refine ⟨kept, ?_⟩
  rw [normalize_of_ne_nil h, hroot, names_replicate_append, names_join h]
  exact fun name hname => slash_not_mem_of_mem_names (List.mem_filter.1 hname).1

theorem head?_join_ne_slash {texts : List Text}
    (h : ∀ name ∈ texts, name ≠ [] ∧ .char '/' ∉ name) :
    (Text.join "/" texts).head? ≠ some (.char '/') := by
  cases texts with
  | nil => exact fun h => by cases h
  | cons name rest =>
    obtain ⟨hne, hslash⟩ := h name List.mem_cons_self
    obtain ⟨c, tail, rfl⟩ := List.exists_cons_of_ne_nil hne
    have hhead : (Text.join "/" ((c :: tail) :: rest)).head? = some c := by
      unfold Text.join
      by_cases hrest : rest = []
      · rw [hrest, List.intercalate_singleton]
        rfl
      · rw [List.intercalate_cons_of_ne_nil hrest]
        rfl
    rw [hhead, ne_eq, Option.some.injEq]
    rintro rfl
    exact hslash List.mem_cons_self

/-- The slashes that are kept at the front of a path are kept when the path is spelled anew. -/
theorem rootOf_append {path rest : Text} (hrest : rest.head? ≠ some (.char '/')) :
    rootOf (rootOf path ++ rest) = rootOf path := by
  have htake : ∀ kept : Nat, ((List.replicate kept (CodePoint.char '/') ++ rest).takeWhile
      (· == .char '/')).length = kept := by
    intro kept
    have hnone : rest.takeWhile (· == .char '/') = [] := by
      cases rest with
      | nil => rfl
      | cons c tail =>
        exact List.takeWhile_cons_of_neg (by simpa using fun hc => hrest (congrArg some hc))
    rw [List.takeWhile_append_of_pos (by simp), hnone, List.append_nil, List.length_replicate]
  have hkept : ∃ kept, kept ≤ 2 ∧ rootOf path = List.replicate kept (.char '/') := by
    unfold rootOf
    split
    · exact ⟨0, by omega, rfl⟩
    · exact ⟨2, by omega, rfl⟩
    · exact ⟨1, by omega, rfl⟩
  obtain ⟨kept, hle, hroot⟩ := hkept
  rw [hroot]
  conv => lhs; unfold rootOf
  rw [htake]
  obtain rfl | rfl | rfl : kept = 0 ∨ kept = 1 ∨ kept = 2 := by omega
  · rfl
  · rfl
  · rfl

theorem properNames_normalize (path : Text) : properNames (normalize path) = properNames path := by
  by_cases hproper : properNames path = []
  · rw [normalize_eq, hproper]
    obtain ⟨kept, -, -, hroot, -⟩ := exists_rootOf_eq path
    split
    · rfl
    · have hnames := names_replicate_append kept []
      rw [List.append_nil] at hnames
      have hjoin : rootOf path ++ Text.join "/" [] = rootOf path := List.append_nil _
      rw [hjoin, hroot, properNames, hnames, List.filter_append, filter_isProper_replicate]
      rfl
  · obtain ⟨kept, hnames⟩ := names_normalize hproper
    rw [properNames, hnames, List.filter_append, filter_isProper_replicate, List.nil_append,
      properNames, List.filter_filter]
    simp only [Bool.and_self]

/-- The plain spelling starts at the root exactly when the path does. -/
theorem head?_normalize_iff (h : properNames path ≠ []) :
    (normalize path).head? = some (.char '/') ↔ path.head? = some (.char '/') := by
  obtain ⟨kept, count, rest, hroot, hpath, hrest, hle, hzero⟩ := exists_rootOf_eq path
  rw [normalize_of_ne_nil h, hroot]
  conv => rhs; rw [hpath]
  cases kept with
  | zero =>
    rw [hzero rfl]
    refine iff_of_false (head?_join_ne_slash fun name hname => ?_) hrest
    exact ⟨(properNames_ne_nil_of_mem hname).1,
      slash_not_mem_of_mem_names (List.mem_filter.1 hname).1⟩
  | succ kept =>
    obtain ⟨count, rfl⟩ := Nat.exists_eq_add_one_of_ne_zero (n := count) (by omega)
    exact iff_of_true rfl rfl

theorem rootOf_normalize (path : Text) : rootOf (normalize path) = rootOf path := by
  have hjoin : (Text.join "/" (properNames path)).head? ≠ some (.char '/') :=
    head?_join_ne_slash fun name hname => ⟨(properNames_ne_nil_of_mem hname).1,
      slash_not_mem_of_mem_names (List.mem_filter.1 hname).1⟩
  rw [normalize_eq]
  split
  · rename_i hempty
    rw [(List.append_eq_nil_iff.1 (List.isEmpty_iff.1 hempty)).1]
    decide
  · exact rootOf_append hjoin

/-- The plain spelling of a path is its own plain spelling. -/
theorem normalize_normalize (path : Text) : normalize (normalize path) = normalize path := by
  rw [normalize_eq, rootOf_normalize, properNames_normalize, ← normalize_eq]

end Files

end ServiceContract
