import ServiceContract.Proofs.Json.RoundTrip
import ServiceContract.Proofs.Json.SurrogatePair
import ServiceContract.Text.Quoted

/-!
# Quoted strings read as JSON

A quoted text stands between single quotes unless it holds one and no double one, and some code
points have escapes that JSON does not know.  `QuotesAsJson` says which texts are quoted as JSON
strings that denote them.  A reader takes the quoted text for the text itself if it is one of these,
and stops otherwise (`readsIff_quoted`); of the texts in which a first half of a surrogate pair
stands before a second one nothing is said here.
-/

namespace ServiceContract

theorem CodePoint.ofNat_toNat (c : CodePoint) : CodePoint.ofNat c.toNat = c := by
  cases c with
  | surrogate index => exact CodePoint.ofNat_toNat_surrogate index
  | char c =>
    have hvalid : c.toNat < 0xD800 ∨ 0xDFFF < c.toNat ∧ c.toNat < 0x110000 := c.valid
    rw [CodePoint.ofNat, CodePoint.toNat, dif_neg (by omega), Char.ofNat_toNat]

namespace Json

/-! ### Quoted code points -/

/-- Between double quotes, JSON reads the code point as it is quoted: it stands for itself, or it is
escaped by a letter or by four digits. -/
def ReadsQuoted (c : CodePoint) : Prop :=
  c = '\t' ∨ c = '\n' ∨ c = '\r' ∨ c.isPrintable = true ∨ 0x100 ≤ c.toNat ∧ c.toNat < 0x10000

/-- A backslash that starts no escape of a code unit. -/
theorem readString_backslash {c : CodePoint} (hu : c ≠ 'u') (pending : Option Nat) (rest : Text) :
    readString pending (.char '\\' :: c :: rest) = match escaped? c with
      | some e => (readString none rest).map fun x => (loneHalf pending ++ e :: x.1, x.2)
      | none => .error (some (.malformed .badEscape (rest.length + 2))) := by
  rewrite [readString]
  · rfl
  · exact fun _ _ _ _ _ hc _ => hu hc
  · exact hu

theorem le_toNat_of_isPrintable {c : CodePoint} (h : c.isPrintable = true) : 0x20 ≤ c.toNat := by
  unfold CodePoint.isPrintable at h
  split at h
  · simp only [Bool.and_eq_true, decide_eq_true_eq] at h
    exact h.1
  · omega

theorem eq_of_acceptUnit {pending : Option Nat} {unit high : Nat}
    (h : high ∈ (acceptUnit pending unit).2) : high = unit := by
  unfold acceptUnit at h
  by_cases hunit : isHighSurrogate unit = true
  · rw [if_pos hunit] at h
    exact (Option.some.inj h).symm
  · rw [if_neg hunit] at h
    cases pending <;> cases h

/-- A code unit that completes no pair denotes the code point with its number. -/
theorem acceptUnit_append_loneHalf {pending : Option Nat} {unit : Nat}
    (h : pending.isSome = true → isLowSurrogate unit = false) :
    (acceptUnit pending unit).1 ++ loneHalf (acceptUnit pending unit).2 =
      loneHalf pending ++ [CodePoint.ofNat unit] := by
  unfold acceptUnit
  by_cases hunit : isHighSurrogate unit = true
  · rw [if_pos hunit]
    rfl
  · rw [if_neg hunit]
    cases pending with
    | none => rfl
    | some high =>
      dsimp only
      rw [h rfl]
      rfl

/-- Before `rest`, the text `t` is read as the code point `c`, after the first half of a pair or
nothing: all code points are done in the end, unless `c` completes a pair. -/
def ReadsCode (pending : Option Nat) (t : Text) (c : CodePoint) (rest : Text) : Prop :=
  ∃ done pending',
    readString pending (t ++ rest) =
      (readString pending' rest).map (fun x => (done ++ x.1, x.2)) ∧
    (∀ high ∈ pending', high = c.toNat ∧ isHighSurrogate high = true) ∧
    ((pending.isSome = true → isLowSurrogate c.toNat = false) →
      done ++ loneHalf pending' = loneHalf pending ++ [c])

section

variable {c : CodePoint} {pending : Option Nat} {t rest : Text}

theorem readsCode_of_eq (h : readString pending (t ++ rest) =
    (readString none rest).map fun x => (loneHalf pending ++ c :: x.1, x.2)) :
    ReadsCode pending t c rest := by
  refine ⟨loneHalf pending ++ [c], none, ?_, fun _ hnone => (by cases hnone),
    fun _ => List.append_nil _⟩
  rw [h]
  simp only [List.append_assoc, List.singleton_append]

/-- A code point other than the quote that is not written as itself or by a letter. -/
theorem quotedCode_eq_escapeCode (hquote : c ≠ '"') (htab : c ≠ '\t') (hline : c ≠ '\n')
    (hreturn : c ≠ '\r') (hprintable : ¬ c.isPrintable = true) :
    Text.quotedCode '"' c = Text.ofString (Text.escapeCode c.toNat) := by
  have hbackslash : c ≠ '\\' := by
    rintro rfl
    exact hprintable (by decide)
  unfold Text.quotedCode
  rw [if_neg (by simp [hquote, hbackslash]), if_neg (by simp [htab]), if_neg (by simp [hline]),
    if_neg (by simp [hreturn]), if_neg hprintable]

/-- A code point is read as it is quoted. -/
theorem readsCode_quotedCode (hc : ReadsQuoted c) (hquote : c ≠ '"') (pending : Option Nat)
    (hrest : rest ≠ []) : ReadsCode pending (Text.quotedCode '"' c) c rest := by
  by_cases htab : c = '\t'
  · subst htab
    exact readsCode_of_eq (readString_backslash (by decide) pending rest)
  by_cases hline : c = '\n'
  · subst hline
    exact readsCode_of_eq (readString_backslash (by decide) pending rest)
  by_cases hreturn : c = '\r'
  · subst hreturn
    exact readsCode_of_eq (readString_backslash (by decide) pending rest)
  by_cases hbackslash : c = '\\'
  · subst hbackslash
    exact readsCode_of_eq (readString_backslash (by decide) pending rest)
  by_cases hprintable : c.isPrintable = true
  · have hcontrol := le_toNat_of_isPrintable hprintable
    have hcode : Text.quotedCode '"' c = [c] := by
      unfold Text.quotedCode
      rw [if_neg (by simp [hquote, hbackslash]), if_neg (by simp [htab]), if_neg (by simp [hline]),
        if_neg (by simp [hreturn]), if_pos hprintable]
    rw [hcode]
    exact readsCode_of_eq (readString_cons hquote hbackslash (by omega) pending rest)
  · have hrange : 0x100 ≤ c.toNat ∧ c.toNat < 0x10000 := by
      simpa [ReadsQuoted, htab, hline, hreturn, hprintable] using hc
    have hcode : Text.ofString (Text.escapeCode c.toNat) =
        Text.ofString "\\u" ++ Text.ofString (Text.hexDigits 4 c.toNat) := by
      rw [Text.escapeCode, if_neg (by omega), if_pos hrange.2, Text.ofString, String.toList_append,
        List.map_append]
      rfl
    rw [quotedCode_eq_escapeCode hquote htab hline hreturn hprintable, hcode]
    refine ⟨_, _, readString_unit hrange.2 pending hrest, fun high hhigh => ?_, fun hlow => ?_⟩
    · exact ⟨eq_of_acceptUnit hhigh, isHighSurrogate_of_acceptUnit hhigh⟩
    · rw [acceptUnit_append_loneHalf hlow, CodePoint.ofNat_toNat]

/-- JSON has no escapes of two digits and none of eight. -/
theorem isOk_readString_quotedCode (hc : ¬ ReadsQuoted c) (hquote : c ≠ '"') :
    (readString pending (Text.quotedCode '"' c ++ rest)).isOk = false := by
  simp only [ReadsQuoted, not_or, not_and, Nat.not_lt] at hc
  obtain ⟨htab, hline, hreturn, hprintable, hrange⟩ := hc
  rw [quotedCode_eq_escapeCode hquote htab hline hreturn hprintable, Text.escapeCode]
  by_cases hlow : c.toNat < 0x100
  · rw [if_pos hlow, Text.ofString, String.toList_append, List.map_append, List.append_assoc]
    show (readString pending (.char '\\' :: .char 'x' :: _)).isOk = false
    rw [readString_backslash (by decide)]
    rfl
  · have hhigh : ¬ c.toNat < 0x10000 := Nat.not_lt.2 (hrange (Nat.not_lt.1 hlow))
    rw [if_neg hlow, if_neg hhigh, Text.ofString, String.toList_append, List.map_append,
      List.append_assoc]
    show (readString pending (.char '\\' :: .char 'U' :: _)).isOk = false
    rw [readString_backslash (by decide)]
    rfl

end

/-! ### Quoted strings -/

section

variable {s rest : Text}

theorem readString_flatMap_quotedCode (hquote : .char '"' ∉ s) (hs : ∀ c ∈ s, ReadsQuoted c)
    {pending : Option Nat} (hp : ∀ high ∈ pending, isHighSurrogate high = true)
    (hpair : PairFree (loneHalf pending ++ s)) :
    readString pending (s.flatMap (Text.quotedCode '"') ++ .char '"' :: rest) =
      .ok (loneHalf pending ++ s, rest) := by
  induction s generalizing pending with
  | nil =>
    rw [List.flatMap_nil, List.nil_append, readString, List.append_nil]
  | cons c s ih =>
    obtain ⟨hc, hs⟩ := List.forall_mem_cons.1 hs
    rw [List.mem_cons, not_or] at hquote
    obtain ⟨hne, hquote⟩ := hquote
    have hrest : s.flatMap (Text.quotedCode '"') ++ .char '"' :: rest ≠ [] := by simp
    obtain ⟨done, pending', hread, hpending', hdone⟩ :=
      readsCode_quotedCode hc (Ne.symm hne) pending hrest
    have hlow : pending.isSome = true → isLowSurrogate c.toNat = false := by
      intro hsome
      obtain ⟨high, rfl⟩ := Option.isSome_iff_exists.1 hsome
      refine (List.isChain_cons_cons.1 hpair).1 ?_
      rw [isHighSurrogate_ofNat]
      exact hp high rfl
    have hcs : PairFree (c :: s) := List.IsChain.right_of_append hpair
    have hpair' : PairFree (loneHalf pending' ++ s) := by
      cases pending' with
      | none => exact hcs.tail
      | some high =>
        have hlone : loneHalf (some high) = [c] := by
          rw [(hpending' high rfl).1]
          exact congrArg (fun d => [d]) (CodePoint.ofNat_toNat c)
        rw [hlone]
        exact hcs
    rw [List.flatMap_cons, List.append_assoc, hread,
      ih hquote hs (fun high hhigh => (hpending' high hhigh).2) hpair']
    show Except.ok (done ++ (loneHalf pending' ++ s), rest) = _
    rw [← List.append_assoc, hdone hlow, List.append_assoc, List.singleton_append]

theorem readsQuoted_of_isOk (hquote : .char '"' ∉ s) {pending : Option Nat}
    (h : (readString pending (s.flatMap (Text.quotedCode '"') ++ .char '"' :: rest)).isOk = true) :
    ∀ c ∈ s, ReadsQuoted c := by
  induction s generalizing pending with
  | nil => exact List.forall_mem_nil _
  | cons c s ih =>
    rw [List.mem_cons, not_or] at hquote
    obtain ⟨hne, hquote⟩ := hquote
    rw [List.flatMap_cons, List.append_assoc] at h
    by_cases hc : ReadsQuoted c
    · have hrest : s.flatMap (Text.quotedCode '"') ++ .char '"' :: rest ≠ [] := by simp
      obtain ⟨done, pending', hread, -, -⟩ :=
        readsCode_quotedCode hc (Ne.symm hne) pending hrest
      rw [hread, Outcome.isOk_map] at h
      exact List.forall_mem_cons.2 ⟨hc, ih hquote h⟩
    · rw [isOk_readString_quotedCode hc (Ne.symm hne)] at h
      cases h

end

/-- A reading that succeeds under a condition only, and then with the given result. -/
def ReadsIff {ε α : Type} (p : Prop) (r : Except ε α) (a : α) : Prop :=
  (p → r = .ok a) ∧ (r.isOk = true → p)

section

variable {ε α β : Type} {p q : Prop} {r : Except ε α} {a : α}

theorem ReadsIff.congr (h : ReadsIff p r a) (hpq : q ↔ p) : ReadsIff q r a :=
  ⟨fun hq => h.1 (hpq.1 hq), fun hok => hpq.2 (h.2 hok)⟩

theorem readsIff_of_eq_ok (h : r = .ok a) (hp : p) : ReadsIff p r a := ⟨fun _ => h, fun _ => hp⟩

theorem readsIff_of_isOk_eq_false (h : r.isOk = false) (hp : ¬ p) : ReadsIff p r a := by
  refine ⟨fun hp' => absurd hp' hp, fun hok => ?_⟩
  rw [h] at hok
  cases hok

theorem ReadsIff.map (h : ReadsIff p r a) (f : α → β) : ReadsIff p (r.map f) (f a) := by
  refine ⟨fun hp => ?_, fun hok => ?_⟩
  · rw [h.1 hp]
    rfl
  · rw [Outcome.isOk_map] at hok
    exact h.2 hok

theorem ReadsIff.bind (h : ReadsIff p r a) {f : α → Except ε β} {b : β}
    (hf : p → ReadsIff q (f a) b) : ReadsIff (p ∧ q) (r >>= f) b := by
  refine ⟨fun hpq => ?_, fun hok => ?_⟩
  · rw [h.1 hpq.1]
    exact (hf hpq.1).1 hpq.2
  · obtain ⟨a', ha', hok'⟩ := Outcome.isOk_bind_iff.1 hok
    have hp : p := h.2 (by rw [ha']; rfl)
    rw [h.1 hp] at ha'
    obtain rfl := Except.ok.inj ha'
    exact ⟨hp, (hf hp).2 hok'⟩

end

/-- The text is quoted as a JSON string that denotes it. -/
structure QuotesAsJson (s : Text) : Prop where
  single : .char '\'' ∈ s
  double : .char '"' ∉ s
  codes : ∀ c ∈ s, ReadsQuoted c
  pairs : PairFree s

section

variable {s : Text}

theorem quoted_append (hsingle : .char '\'' ∈ s) (hdouble : .char '"' ∉ s) (rest : Text) :
    s.quoted ++ rest = .char '"' :: (s.flatMap (Text.quotedCode '"') ++ .char '"' :: rest) := by
  have hquote : s.quoteFor = '"' := by simp [Text.quoteFor, hsingle, hdouble]
  rw [Text.quoted, hquote]
  simp

theorem exists_quoted_eq (h : ¬ (.char '\'' ∈ s ∧ .char '"' ∉ s)) :
    ∃ more, s.quoted = .char '\'' :: more := by
  have hquote : s.quoteFor = '\'' := by
    have hnot : (s.contains (.char '\'') && !s.contains (.char '"')) = false := by
      simpa [Bool.eq_false_iff] using h
    rw [Text.quoteFor, hnot]
    rfl
  rw [Text.quoted, hquote]
  exact ⟨_, rfl⟩

theorem readsIff_readText (hsingle : .char '\'' ∈ s) (hdouble : .char '"' ∉ s)
    (hpair : PairFree s) (rest : Text) :
    ReadsIff (QuotesAsJson s)
      (readText (s.flatMap (Text.quotedCode '"') ++ .char '"' :: rest)) (s, rest) := by
  rw [readText_eq]
  refine ⟨fun hs => ?_, fun hok => ?_⟩
  · have hnone : ∀ high ∈ (none : Option Nat), isHighSurrogate high = true := by
      intro high hhigh
      cases hhigh
    have hread : readString none (s.flatMap (Text.quotedCode '"') ++ .char '"' :: rest) =
        .ok (s, rest) := readString_flatMap_quotedCode hdouble hs.codes hnone hpair
    rw [hread]
    rfl
  · rw [Outcome.isOk_mapError] at hok
    exact ⟨hsingle, hdouble, readsQuoted_of_isOk hdouble hok, hpair⟩

/-- No value of JSON starts with a single quote. -/
theorem readValue_single (fuel depth : Nat) (rest : Text) :
    (readValue (fuel + 1) depth (.char '\'' :: rest)).isOk = false := by
  rfl

theorem readsIff_quoted (hpair : PairFree s) (fuel depth : Nat) (rest : Text) :
    ReadsIff (QuotesAsJson s) (readValue (fuel + 1) depth (s.quoted ++ rest))
      (.string s, rest) := by
  by_cases hquotes : .char '\'' ∈ s ∧ .char '"' ∉ s
  · rw [quoted_append hquotes.1 hquotes.2, readValue]
    exact (readsIff_readText hquotes.1 hquotes.2 hpair rest).map _
  · obtain ⟨more, hmore⟩ := exists_quoted_eq hquotes
    rw [hmore]
    exact readsIff_of_isOk_eq_false (readValue_single fuel depth _) fun hs =>
      hquotes ⟨hs.single, hs.double⟩

end

end Json

end ServiceContract
