import ServiceContract.Proofs.Files.Path
import ServiceContract.Proofs.Text.Order
import ServiceContract.Proofs.Uri.Host
import ServiceContract.Uri.Split

/-!
# Which addresses can be taken apart

An address can be taken apart exactly when its host is in order (`split_eq_ok_iff`).  What its path
stands for can be looked up unless the path holds a code point that no path has, or spells the null
character by a percent sign and two zeros (`unnameable_unescape_iff`).
-/

namespace ServiceContract.Uri

/-! ### Parts -/

/-- The scheme that an address starts with. -/
def schemeOf (uri : Text) : Text := (splitScheme (significant uri)).1

/-- The host of an address, with its user name and its port. -/
def hostOf (uri : Text) : Text := (splitHost (splitScheme (significant uri)).2).1

/-- The path of an address, as it is written. -/
def pathOf (uri : Text) : Text :=
  ((splitHost (splitScheme (significant uri)).2).2.takeWhile (· != .char '#')).takeWhile
    (· != .char '?')

variable {uri : Text}

theorem split_eq : split uri = match bracketsFault? (hostOf uri) with
    | some fault => .error fault
    | none =>
      if (hostOf uri).any disguisedDelimiters.contains then
        .error (.disguisedDelimiter (hostOf uri))
      else .ok ⟨schemeOf uri, pathOf uri⟩ := rfl

/-- An address with a host in order is taken apart, and no other one. -/
theorem split_eq_ok_iff {parts : Parts} :
    split uri = .ok parts ↔ IsHost (hostOf uri) ∧ parts = ⟨schemeOf uri, pathOf uri⟩ := by
  rw [split_eq, isHost_iff]
  cases bracketsFault? (hostOf uri) with
  | some fault => simp
  | none => cases (hostOf uri).any disguisedDelimiters.contains <;> simp [eq_comm]

theorem exists_split_error (h : ¬ IsHost (hostOf uri)) : ∃ fault, split uri = .error fault := by
  cases hsplit : split uri with
  | error fault => exact ⟨fault, rfl⟩
  | ok parts => exact absurd (split_eq_ok_iff.1 hsplit).1 h

/-! ### Spelled null characters -/

/-- The null character stands in the text, by itself or as a percent sign and two zeros. -/
def SpellsNull (t : Text) : Prop := .char '\x00' ∈ t ∨ Text.ofString "%00" <:+: t

theorem hexValue?_eq_some {c : CodePoint} {n : Nat} (h : c.hexValue? = some n) :
    n < 16 ∧ (n = 0 ↔ c.toNat = 48) ∧ 48 ≤ c.toNat := by
  unfold CodePoint.hexValue? at h
  dsimp only at h
  split_ifs at h <;> obtain rfl := Option.some.inj h
  all_goals omega

theorem hexNumber?_eq_some {a b : CodePoint} {n : Nat} (h : Text.hexNumber? [a, b] = some n) :
    n < 256 ∧ (n = 0 ↔ a.toNat = 48 ∧ b.toNat = 48) ∧ 48 ≤ a.toNat ∧ 48 ≤ b.toNat := by
  unfold Text.hexNumber? at h
  simp only [List.foldlM_cons, List.foldlM_nil] at h
  cases ha : a.hexValue? with
  | none => simp [ha] at h
  | some m =>
    cases hb : b.hexValue? with
    | none => simp [ha, hb] at h
    | some k =>
      have hm := hexValue?_eq_some ha
      have hk := hexValue?_eq_some hb
      have hn : 16 * m + k = n := by simpa [ha, hb] using h
      omega

theorem toNat_eq_iff {c : CodePoint} (d : Char) : c.toNat = d.toNat ↔ c = .char d :=
  CodePoint.toNat_injective.eq_iff (b := .char d)

theorem spellsNull_cons_iff {c : CodePoint} {t : Text} : SpellsNull (c :: t) ↔
    c = '\x00' ∨ Text.ofString "%00" <+: c :: t ∨ SpellsNull t := by
  unfold SpellsNull
  rw [List.mem_cons, List.infix_cons_iff, eq_comm]
  exact or_assoc.trans (or_congr_right or_left_comm)

theorem prefix_iff {t : Text} :
    Text.ofString "%00" <+: t ↔ ∃ rest, t = .char '%' :: .char '0' :: .char '0' :: rest :=
  ⟨fun ⟨rest, h⟩ => ⟨rest, h.symm⟩, fun ⟨rest, h⟩ => ⟨rest, h.symm⟩⟩

theorem spellsNull_cons_of_ne {c : CodePoint} {t : Text} (hnull : c ≠ '\x00')
    (hpercent : c ≠ '%') : SpellsNull (c :: t) ↔ SpellsNull t := by
  have hstart : ¬ Text.ofString "%00" <+: c :: t := by
    rw [prefix_iff]
    rintro ⟨rest, h⟩
    exact hpercent (List.cons.inj h).1
  rw [spellsNull_cons_iff, or_iff_right hnull, or_iff_right hstart]

/-- The zero octet among the octets that ASCII characters stand for. -/
theorem zero_mem_octetsOf_iff {t : Text} (h : ∀ c ∈ t, c.toNat < 128) :
    0 ∈ octetsOf t ↔ SpellsNull t := by
  induction t using octetsOf.induct with
  | case1 => simp [octetsOf, SpellsNull, Text.ofString]
  | case2 a b rest octet hoctet ih =>
    obtain ⟨hlt, hzero, ha, hb⟩ := hexNumber?_eq_some hoctet
    have hne : ∀ c : CodePoint, 48 ≤ c.toNat → c ≠ '\x00' ∧ c ≠ '%' := by
      rintro c hc
      constructor
      · rintro rfl
        exact absurd hc (by decide)
      · rintro rfl
        exact absurd hc (by decide)
    have hrest : ∀ c ∈ rest, c.toNat < 128 := fun c hc => h c (by simp [hc])
    have hoctets : octetsOf (.char '%' :: a :: b :: rest) =
        UInt8.ofNat octet :: octetsOf rest := by
      rw [octetsOf, hoctet]
    have hstart : Text.ofString "%00" <+: .char '%' :: a :: b :: rest ↔ octet = 0 := by
      have hdigit : ∀ c : CodePoint, c.toNat = 48 ↔ c = '0' := fun c => toNat_eq_iff '0'
      rw [prefix_iff, hzero, hdigit, hdigit]
      simp
    rw [hoctets, List.mem_cons, ih hrest, spellsNull_cons_iff, hstart,
      spellsNull_cons_of_ne (hne a ha).1 (hne a ha).2,
      spellsNull_cons_of_ne (hne b hb).1 (hne b hb).2, eq_comm, Text.eq_ofNat_iff hlt]
    simp
  | case3 a b rest hnone ih =>
    have hoctets : octetsOf (.char '%' :: a :: b :: rest) = 37 :: octetsOf (a :: b :: rest) := by
      rw [octetsOf, hnone]
    have hstart : ¬ Text.ofString "%00" <+: .char '%' :: a :: b :: rest := by
      rw [prefix_iff]
      rintro ⟨rest', heq⟩
      simp only [List.cons.injEq, true_and] at heq
      obtain ⟨rfl, rfl, -⟩ := heq
      cases hnone
    have hspells : SpellsNull (.char '%' :: a :: b :: rest) ↔ SpellsNull (a :: b :: rest) := by
      rw [spellsNull_cons_iff, or_iff_right (by decide), or_iff_right hstart]
    rw [hoctets, List.mem_cons, ih fun c hc => h c (List.mem_cons_of_mem _ hc), hspells]
    exact or_iff_right (by decide)
  | case4 c rest hshape ih =>
    have hoctets : octetsOf (c :: rest) = UInt8.ofNat c.toNat :: octetsOf rest :=
      octetsOf.eq_3 c rest hshape
    have hstart : ¬ Text.ofString "%00" <+: c :: rest := by
      rw [prefix_iff]
      rintro ⟨rest', heq⟩
      obtain ⟨rfl, rfl⟩ := List.cons.inj heq
      exact hshape _ _ _ rfl rfl
    have hlt : c.toNat < 128 := h c List.mem_cons_self
    have hnull : 0 = UInt8.ofNat c.toNat ↔ c = '\x00' := by
      rw [eq_comm, Text.eq_ofNat_iff (by omega)]
      exact toNat_eq_iff '\x00'
    rw [hoctets, List.mem_cons, ih fun c hc => h c (List.mem_cons_of_mem _ hc),
      spellsNull_cons_iff, hnull]
    simp [hstart]

/-! ### What a path stands for -/

theorem prefix_append_cons_iff {l t u : Text} {c : CodePoint} (hc : c ∉ l) :
    l <+: t ++ c :: u ↔ l <+: t := by
  induction t generalizing l with
  | nil =>
    cases l with
    | nil => simp
    | cons d l =>
      have hne : d ≠ c := fun heq => hc (heq ▸ List.mem_cons_self)
      simp [hne]
  | cons e t ih =>
    cases l with
    | nil => simp
    | cons d l =>
      rw [List.cons_append, List.cons_prefix_cons, List.cons_prefix_cons,
        ih fun hmem => hc (List.mem_cons_of_mem d hmem)]

theorem spellsNull_append_cons_iff {t u : Text} {c : CodePoint} (hc : 128 ≤ c.toNat) :
    SpellsNull (t ++ c :: u) ↔ SpellsNull t ∨ SpellsNull u := by
  have hne : ∀ d : Char, d.toNat < 128 → c ≠ .char d := by
    rintro d hd rfl
    exact absurd hc (Nat.not_le.2 hd)
  induction t with
  | nil =>
    rw [List.nil_append, spellsNull_cons_of_ne (hne _ (by decide)) (hne _ (by decide))]
    simp [SpellsNull, Text.ofString]
  | cons d t ih =>
    have hmem : c ∉ Text.ofString "%00" := by
      simp [Text.ofString, hne '%' (by decide), hne '0' (by decide)]
    have hstart := prefix_append_cons_iff (t := d :: t) (u := u) hmem
    have hrest : SpellsNull (t ++ c :: u) ↔ SpellsNull t ∨ SpellsNull u := ih
    rw [List.cons_append] at hstart ⊢
    rw [spellsNull_cons_iff, spellsNull_cons_iff, hrest, hstart, or_assoc, or_assoc]

theorem null_mem_unescapeRuns_iff {run t : Text} (h : ∀ c ∈ run, c.toNat < 128) :
    .char '\x00' ∈ unescapeRuns run t ↔ SpellsNull (run.reverse ++ t) := by
  induction t generalizing run with
  | nil =>
    rw [unescapeRuns, Text.null_mem_decodeLossy_iff, List.append_nil,
      zero_mem_octetsOf_iff (by simpa using h)]
  | cons c t ih =>
    rw [unescapeRuns]
    by_cases hc : c.toNat < 128
    · rw [if_pos hc, ih (List.forall_mem_cons.2 ⟨hc, h⟩), List.reverse_cons, List.append_assoc]
      rfl
    · have hne : CodePoint.char '\x00' ≠ c := by
        rintro rfl
        exact hc (by decide)
      rw [if_neg hc, List.mem_append, List.mem_cons, ih (by simp), Text.null_mem_decodeLossy_iff,
        zero_mem_octetsOf_iff (by simpa using h), spellsNull_append_cons_iff (Nat.not_lt.1 hc)]
      simp [hne]

theorem isSurrogate_decodeLossy (octets : List UInt8) {c : CodePoint}
    (hc : c.isSurrogate = true) : c ∉ Text.decodeLossy octets := fun hmem => by
  rw [Text.isSurrogate_decodeLossyFrom _ _ c hmem] at hc
  cases hc

theorem surrogate_mem_unescapeRuns_iff {run t : Text} {c : CodePoint} (hc : c.isSurrogate = true) :
    c ∈ unescapeRuns run t ↔ c ∈ t := by
  have hlarge : ¬ c.toNat < 128 := by
    cases c with
    | char c => cases hc
    | surrogate index =>
      have hlow : 0xD800 ≤ (CodePoint.surrogate index).toNat := Nat.le_add_right _ _
      omega
  induction t generalizing run with
  | nil => simp [unescapeRuns, isSurrogate_decodeLossy _ hc]
  | cons d t ih =>
    have hrest : ∀ run', c ∈ unescapeRuns run' t ↔ c ∈ t := fun run' => ih
    rw [unescapeRuns]
    by_cases hd : d.toNat < 128
    · have hne : c ≠ d := by
        rintro rfl
        exact hlarge hd
      rw [if_pos hd, hrest, List.mem_cons, or_iff_right hne]
    · rw [if_neg hd, List.mem_append, List.mem_cons, hrest, List.mem_cons,
        or_iff_right (isSurrogate_decodeLossy _ hc)]

/-- The path stands for the path of a file, one that can be looked up. -/
def NamesFile (path : Text) : Prop :=
  (∀ c ∈ path, ¬ c.IsUnnameable) ∧ ¬ Text.ofString "%00" <:+: path

/-- Taking the percent signs of a path away adds no code point that no path has, apart from the null
characters that it spells. -/
theorem unnameable_unescape_iff {path : Text} :
    (∃ c ∈ unescape path, c.IsUnnameable) ↔ ¬ NamesFile path := by
  have hnull : .char '\x00' ∈ unescape path ↔ SpellsNull path :=
    null_mem_unescapeRuns_iff (by simp)
  have hsurrogate : ∀ c : CodePoint, c.isSurrogate = true → (c ∈ unescape path ↔ c ∈ path) :=
    fun c hc => surrogate_mem_unescapeRuns_iff hc
  unfold NamesFile
  rw [not_and_or, not_not]
  push Not
  constructor
  · rintro ⟨c, hc, rfl | hname⟩
    · rcases hnull.1 hc with hmem | hinfix
      · exact Or.inl ⟨_, hmem, Or.inl rfl⟩
      · exact Or.inr hinfix
    · exact Or.inl ⟨c, (hsurrogate c hname.1).1 hc, Or.inr hname⟩
  · rintro (⟨c, hc, rfl | hname⟩ | hinfix)
    · exact ⟨_, hnull.2 (Or.inl hc), Or.inl rfl⟩
    · exact ⟨c, (hsurrogate c hname.1).2 hc, Or.inr hname⟩
    · exact ⟨_, hnull.2 (Or.inr hinfix), Or.inl rfl⟩

end ServiceContract.Uri
