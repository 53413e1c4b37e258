import Mathlib.Data.List.Basic
import ServiceContract.Proofs.Outcome
import ServiceContract.Text.Utf8

/-!
# Octets that encode a text

Reading UTF-8 yields a text exactly when the octets are the encodings of its characters in a row
(`decode_eq_ok_iff`).  The core of it is one step: `nextChar` reads a character exactly from its
encoding (`nextChar_eq_character_iff`).  The bounds that a step looks at are stated as bounds on
numbers first.
-/

namespace ServiceContract.Text

/-! ### What a step looks at -/

theorem sequenceLength?_eq_some_iff {octet : UInt8} {length : Nat} :
    sequenceLength? octet = some length ↔
      (octet.toNat < 0x80 ∧ length = 1) ∨
      ((0xC2 ≤ octet.toNat ∧ octet.toNat < 0xE0) ∧ length = 2) ∨
      ((0xE0 ≤ octet.toNat ∧ octet.toNat < 0xF0) ∧ length = 3) ∨
      ((0xF0 ≤ octet.toNat ∧ octet.toNat < 0xF5) ∧ length = 4) := by
  unfold sequenceLength?
  simp only [UInt8.lt_iff_toNat_lt, UInt8.toNat_ofNat]
  split_ifs <;> simp only [Option.some.injEq, false_iff] <;> omega

theorem allowsSecond_iff {first second : UInt8} :
    allowsSecond first second = true ↔ (0x80 ≤ second.toNat ∧ second.toNat < 0xC0) ∧
      (first.toNat = 0xE0 → 0xA0 ≤ second.toNat) ∧ (first.toNat = 0xED → second.toNat < 0xA0) ∧
      (first.toNat = 0xF0 → 0x90 ≤ second.toNat) ∧ (first.toNat = 0xF4 → second.toNat < 0x90) := by
  unfold allowsSecond
  simp only [Bool.and_eq_true, Bool.or_eq_true, bne_iff_ne, decide_eq_true_eq, ne_eq,
    ← UInt8.toNat_inj, UInt8.lt_iff_toNat_lt, UInt8.le_iff_toNat_le, UInt8.toNat_ofNat]
  omega

theorem isContinuation_iff {octet : UInt8} :
    isContinuation octet = true ↔ 0x80 ≤ octet.toNat ∧ octet.toNat < 0xC0 := by
  unfold isContinuation
  simp only [Bool.and_eq_true, decide_eq_true_eq, UInt8.lt_iff_toNat_lt, UInt8.le_iff_toNat_le,
    UInt8.toNat_ofNat]

/-! ### Encodings of characters -/

/-- The encodings of a character, by their number of octets. -/
inductive IsEncoding (c : Char) : List UInt8 → Prop
  | one {a : UInt8} (ha : a.toNat < 0x80) (hc : c.toNat = a.toNat) : IsEncoding c [a]
  | two {a b : UInt8} (ha : 0xC2 ≤ a.toNat ∧ a.toNat < 0xE0) (hb : allowsSecond a b = true)
      (hc : c.toNat = codePoint (a.toNat % 32) [b]) : IsEncoding c [a, b]
  | three {a b d : UInt8} (ha : 0xE0 ≤ a.toNat ∧ a.toNat < 0xF0) (hb : allowsSecond a b = true)
      (hd : isContinuation d = true) (hc : c.toNat = codePoint (a.toNat % 16) [b, d]) :
      IsEncoding c [a, b, d]
  | four {a b d e : UInt8} (ha : 0xF0 ≤ a.toNat ∧ a.toNat < 0xF5) (hb : allowsSecond a b = true)
      (hd : isContinuation d = true) (he : isContinuation e = true)
      (hc : c.toNat = codePoint (a.toNat % 8) [b, d, e]) : IsEncoding c [a, b, d, e]

theorem toNat_ofNat_of_lt {n : Nat} (h : n < 256) : (UInt8.ofNat n).toNat = n := by
  rw [UInt8.toNat_ofNat', Nat.mod_eq_of_lt h]

theorem eq_ofNat_iff {a : UInt8} {n : Nat} (h : n < 256) : UInt8.ofNat n = a ↔ n = a.toNat := by
  rw [← UInt8.toNat_inj, toNat_ofNat_of_lt h]

theorem utf8EncodeChar_of_isEncoding {c : Char} {octets : List UInt8} (h : IsEncoding c octets) :
    String.utf8EncodeChar c = octets := by
  have hval : c.val.toNat = c.toNat := rfl
  unfold String.utf8EncodeChar
  dsimp only
  rw [hval]
  cases h with
  | @one a ha hc =>
    rw [if_pos (by omega), (eq_ofNat_iff (by omega)).2 hc]
  | @two a b ha hb hc =>
    have hb := (allowsSecond_iff.1 hb).1
    simp only [codePoint, List.foldl_cons, List.foldl_nil] at hc
    rw [if_neg (by omega), if_pos (by omega), (eq_ofNat_iff (a := a) (by omega)).2 (by omega),
      (eq_ofNat_iff (a := b) (by omega)).2 (by omega)]
  | @three a b d ha hb hd hc =>
    have hb := allowsSecond_iff.1 hb
    have hd := isContinuation_iff.1 hd
    simp only [codePoint, List.foldl_cons, List.foldl_nil] at hc
    rw [if_neg (by omega), if_neg (by omega), if_pos (by omega),
      (eq_ofNat_iff (a := a) (by omega)).2 (by omega),
      (eq_ofNat_iff (a := b) (by omega)).2 (by omega),
      (eq_ofNat_iff (a := d) (by omega)).2 (by omega)]
  | @four a b d e ha hb hd he hc =>
    have hb := allowsSecond_iff.1 hb
    have hd := isContinuation_iff.1 hd
    have he := isContinuation_iff.1 he
    simp only [codePoint, List.foldl_cons, List.foldl_nil] at hc
    rw [if_neg (by omega), if_neg (by omega), if_neg (by omega),
      (eq_ofNat_iff (a := a) (by omega)).2 (by omega),
      (eq_ofNat_iff (a := b) (by omega)).2 (by omega),
      (eq_ofNat_iff (a := d) (by omega)).2 (by omega),
      (eq_ofNat_iff (a := e) (by omega)).2 (by omega)]

theorem isEncoding_utf8EncodeChar (c : Char) : IsEncoding c (String.utf8EncodeChar c) := by
  have hval : c.val.toNat = c.toNat := rfl
  have hvalid : c.toNat < 0xD800 ∨ 0xDFFF < c.toNat ∧ c.toNat < 0x110000 := c.valid
  unfold String.utf8EncodeChar
  dsimp only
  rw [hval]
  split_ifs with h₁ h₂ h₃
  · have ha : (UInt8.ofNat c.toNat).toNat = c.toNat := toNat_ofNat_of_lt (by omega)
    exact .one (by omega) ha.symm
  · have ha := toNat_ofNat_of_lt (n := c.toNat / 64 % 32 + 192) (by omega)
    have hb := toNat_ofNat_of_lt (n := c.toNat % 64 + 128) (by omega)
    refine .two (by omega) (allowsSecond_iff.2 (by omega)) ?_
    rw [codePoint, List.foldl_cons, List.foldl_nil, ha, hb]
    omega
  · have ha := toNat_ofNat_of_lt (n := c.toNat / 4096 % 16 + 224) (by omega)
    have hb := toNat_ofNat_of_lt (n := c.toNat / 64 % 64 + 128) (by omega)
    have hd := toNat_ofNat_of_lt (n := c.toNat % 64 + 128) (by omega)
    refine .three (by omega) (allowsSecond_iff.2 (by omega)) (isContinuation_iff.2 (by omega)) ?_
    rw [codePoint, List.foldl_cons, List.foldl_cons, List.foldl_nil, ha, hb, hd]
    omega
  · have ha := toNat_ofNat_of_lt (n := c.toNat / 262144 % 8 + 240) (by omega)
    have hb := toNat_ofNat_of_lt (n := c.toNat / 4096 % 64 + 128) (by omega)
    have hd := toNat_ofNat_of_lt (n := c.toNat / 64 % 64 + 128) (by omega)
    have he := toNat_ofNat_of_lt (n := c.toNat % 64 + 128) (by omega)
    refine .four (by omega) (allowsSecond_iff.2 (by omega)) (isContinuation_iff.2 (by omega))
      (isContinuation_iff.2 (by omega)) ?_
    rw [codePoint, List.foldl_cons, List.foldl_cons, List.foldl_cons, List.foldl_nil, ha, hb, hd,
      he]
    omega

/-- The octets of a character are its encoding. -/
theorem isEncoding_iff {c : Char} {octets : List UInt8} :
    IsEncoding c octets ↔ String.utf8EncodeChar c = octets := by
  constructor
  · exact utf8EncodeChar_of_isEncoding
  · rintro rfl
    exact isEncoding_utf8EncodeChar c

/-! ### Reading one character -/

theorem nextChar_of_isEncoding {c : Char} {octets : List UInt8} (h : IsEncoding c octets)
    (after : List UInt8) : ∃ first rest, octets ++ after = first :: rest ∧
      nextChar first rest = .character c octets.length after := by
  cases h with
  | @one a ha hc =>
    refine ⟨a, after, rfl, ?_⟩
    rw [nextChar, sequenceLength?_eq_some_iff.2 (Or.inl ⟨ha, rfl⟩), ← hc, Char.ofNat_toNat]
    rfl
  | @two a b ha hb hc =>
    refine ⟨a, b :: after, rfl, ?_⟩
    rw [nextChar, sequenceLength?_eq_some_iff.2 (Or.inr (Or.inl ⟨ha, rfl⟩))]
    simp only [nextSequence, hb, Bool.not_true, Bool.false_eq_true, if_false, if_true, ← hc,
      Char.ofNat_toNat]
    rfl
  | @three a b d ha hb hd hc =>
    refine ⟨a, b :: d :: after, rfl, ?_⟩
    rw [nextChar, sequenceLength?_eq_some_iff.2 (Or.inr (Or.inr (Or.inl ⟨ha, rfl⟩)))]
    simp only [nextSequence, hb, hd, Bool.not_true, Bool.false_eq_true, if_false, if_true, ← hc,
      Char.ofNat_toNat]
    rfl
  | @four a b d e ha hb hd he hc =>
    refine ⟨a, b :: d :: e :: after, rfl, ?_⟩
    rw [nextChar, sequenceLength?_eq_some_iff.2 (Or.inr (Or.inr (Or.inr ⟨ha, rfl⟩)))]
    simp only [nextSequence, hb, hd, he, Bool.not_true, Bool.false_eq_true, if_false, ← hc,
      Char.ofNat_toNat]
    rfl

theorem toNat_ofNat_of_isValidChar {n : Nat} (h : n.isValidChar) : (Char.ofNat n).toNat = n := by
  rw [Char.ofNat, dif_pos h]
  rfl

theorem isEncoding_of_nextSequence {first : UInt8} {rest after : List UInt8} {c : Char}
    {length n : Nat} (hs : sequenceLength? first = some length) (hlength : length ≠ 1)
    (h : nextSequence first length rest = .character c n after) :
    ∃ octets, IsEncoding c octets ∧ first :: rest = octets ++ after ∧ n = octets.length := by
  have hcases := sequenceLength?_eq_some_iff.1 hs
  unfold nextSequence at h
  split at h
  · cases h
  rename_i b rest₂
  split at h
  · cases h
  rename_i hb
  have hb : allowsSecond first b = true := by simpa using hb
  have hbounds := allowsSecond_iff.1 hb
  split at h
  · rename_i htwo
    obtain ⟨rfl, rfl, rfl⟩ := Utf8Step.character.inj h
    have ha : 0xC2 ≤ first.toNat ∧ first.toNat < 0xE0 := by omega
    refine ⟨[first, b], .two ha hb (toNat_ofNat_of_isValidChar ?_), rfl, rfl⟩
    left
    rw [codePoint, List.foldl_cons, List.foldl_nil]
    omega
  rename_i htwo
  split at h
  · cases h
  rename_i d rest₃
  split at h
  · cases h
  rename_i hd
  have hd : isContinuation d = true := by simpa using hd
  split at h
  · rename_i hthree
    obtain ⟨rfl, rfl, rfl⟩ := Utf8Step.character.inj h
    have ha : 0xE0 ≤ first.toNat ∧ first.toNat < 0xF0 := by omega
    refine ⟨[first, b, d], .three ha hb hd (toNat_ofNat_of_isValidChar ?_), rfl, rfl⟩
    rw [Nat.isValidChar, codePoint, List.foldl_cons, List.foldl_cons, List.foldl_nil]
    omega
  rename_i hthree
  split at h
  · cases h
  rename_i e rest₄
  split at h
  · cases h
  rename_i he
  have he : isContinuation e = true := by simpa using he
  obtain ⟨rfl, rfl, rfl⟩ := Utf8Step.character.inj h
  have ha : 0xF0 ≤ first.toNat ∧ first.toNat < 0xF5 := by omega
  refine ⟨[first, b, d, e], .four ha hb hd he (toNat_ofNat_of_isValidChar ?_), rfl, rfl⟩
  right
  rw [codePoint, List.foldl_cons, List.foldl_cons, List.foldl_cons, List.foldl_nil]
  omega

/-- A character is read exactly from its encoding. -/
theorem nextChar_eq_character_iff {first : UInt8} {rest after : List UInt8} {c : Char} {n : Nat} :
    nextChar first rest = .character c n after ↔
      ∃ octets, IsEncoding c octets ∧ first :: rest = octets ++ after ∧ n = octets.length := by
  constructor
  · intro h
    unfold nextChar at h
    split at h
    · cases h
    · rename_i hs
      obtain ⟨rfl, rfl, rfl⟩ := Utf8Step.character.inj h
      have ha : first.toNat < 0x80 := by
        have := sequenceLength?_eq_some_iff.1 hs
        omega
      refine ⟨[first], .one ha (toNat_ofNat_of_isValidChar ?_), rfl, rfl⟩
      left
      omega
    · rename_i length hlength hs
      exact isEncoding_of_nextSequence hs (fun h => hlength h) h
  · rintro ⟨octets, hencoding, hsplit, rfl⟩
    obtain ⟨first', rest', hsplit', h⟩ := nextChar_of_isEncoding hencoding after
    obtain ⟨rfl, rfl⟩ := List.cons.inj (hsplit.trans hsplit')
    exact h

/-! ### Reading all octets -/

/-- The octets are the encodings of the characters of the text in a row. -/
def Encodes (octets : List UInt8) (t : Text) : Prop :=
  ∃ s : String, t = ofString s ∧ octets = s.toList.flatMap String.utf8EncodeChar

theorem IsEncoding.length_pos {c : Char} {octets : List UInt8} (h : IsEncoding c octets) :
    0 < octets.length := by
  cases h <;> exact Nat.succ_pos _

theorem length_after_lt {first : UInt8} {rest after : List UInt8} {c : Char} {n : Nat}
    (h : nextChar first rest = .character c n after) : after.length < (first :: rest).length := by
  obtain ⟨octets, hc, hsplit, -⟩ := nextChar_eq_character_iff.1 h
  have hpos := hc.length_pos
  rw [hsplit, List.length_append]
  omega

/-- An octet below 0x80 is the encoding of a character and part of no other one. -/
theorem mem_utf8EncodeChar_iff {c : Char} {octet : UInt8} (h : octet.toNat < 0x80) :
    octet ∈ String.utf8EncodeChar c ↔ c.toNat = octet.toNat := by
  have hencoding := isEncoding_utf8EncodeChar c
  generalize String.utf8EncodeChar c = octets at hencoding
  cases hencoding with
  | @one a ha hc => rw [List.mem_singleton, ← UInt8.toNat_inj, hc, eq_comm]
  | @two a b ha hb hc =>
    have hb := allowsSecond_iff.1 hb
    simp only [codePoint, List.foldl_cons, List.foldl_nil] at hc
    simp only [List.mem_cons, List.not_mem_nil, or_false, ← UInt8.toNat_inj]
    omega
  | @three a b d ha hb hd hc =>
    have hb := allowsSecond_iff.1 hb
    have hd := isContinuation_iff.1 hd
    simp only [codePoint, List.foldl_cons, List.foldl_nil] at hc
    simp only [List.mem_cons, List.not_mem_nil, or_false, ← UInt8.toNat_inj]
    omega
  | @four a b d e ha hb hd he hc =>
    have hb := allowsSecond_iff.1 hb
    have hd := isContinuation_iff.1 hd
    have he := isContinuation_iff.1 he
    simp only [codePoint, List.foldl_cons, List.foldl_nil] at hc
    simp only [List.mem_cons, List.not_mem_nil, or_false, ← UInt8.toNat_inj]
    omega

theorem exists_append_of_nextSequence_fault {first : UInt8} {rest after : List UInt8}
    {length n : Nat} {reason : Utf8Reason} (hfirst : 0x80 ≤ first.toNat)
    (h : nextSequence first length rest = .fault n reason after) :
    ∃ octets, first :: rest = octets ++ after ∧ octets ≠ [] ∧ ∀ a ∈ octets, 0x80 ≤ a.toNat := by
  have hone : ∀ a ∈ [first], 0x80 ≤ a.toNat := by simpa using hfirst
  unfold nextSequence at h
  split at h
  · obtain ⟨-, -, rfl⟩ := Utf8Step.fault.inj h
    exact ⟨[first], rfl, List.cons_ne_nil _ _, hone⟩
  rename_i second rest₂
  split at h
  · obtain ⟨-, -, rfl⟩ := Utf8Step.fault.inj h
    exact ⟨[first], rfl, List.cons_ne_nil _ _, hone⟩
  rename_i hsecond
  have hsecond := allowsSecond_iff.1 (by simpa using hsecond)
  have htwo : ∀ a ∈ [first, second], 0x80 ≤ a.toNat :=
    List.forall_mem_cons.2 ⟨hfirst, by simpa using hsecond.1.1⟩
  split at h
  · cases h
  split at h
  · obtain ⟨-, -, rfl⟩ := Utf8Step.fault.inj h
    exact ⟨[first, second], rfl, List.cons_ne_nil _ _, htwo⟩
  rename_i third rest₃
  split at h
  · obtain ⟨-, -, rfl⟩ := Utf8Step.fault.inj h
    exact ⟨[first, second], rfl, List.cons_ne_nil _ _, htwo⟩
  rename_i hthird
  have hthird := isContinuation_iff.1 (by simpa using hthird)
  have hthree : ∀ a ∈ [first, second, third], 0x80 ≤ a.toNat :=
    List.forall_mem_append.2 ⟨htwo, (by simpa using hthird.1 : ∀ a ∈ [third], 0x80 ≤ a.toNat)⟩
  split at h
  · cases h
  split at h
  · obtain ⟨-, -, rfl⟩ := Utf8Step.fault.inj h
    exact ⟨[first, second, third], rfl, List.cons_ne_nil _ _, hthree⟩
  split at h
  · obtain ⟨-, -, rfl⟩ := Utf8Step.fault.inj h
    exact ⟨[first, second, third], rfl, List.cons_ne_nil _ _, hthree⟩
  · cases h

/-- A fault takes at least one octet, and none that is the encoding of an ASCII character. -/
theorem exists_append_of_nextChar_fault {first : UInt8} {rest after : List UInt8} {n : Nat}
    {reason : Utf8Reason} (h : nextChar first rest = .fault n reason after) :
    ∃ octets, first :: rest = octets ++ after ∧ octets ≠ [] ∧ ∀ a ∈ octets, 0x80 ≤ a.toNat := by
  have hascii : first.toNat < 0x80 → sequenceLength? first = some 1 := fun hlt =>
    sequenceLength?_eq_some_iff.2 (Or.inl ⟨hlt, rfl⟩)
  have hfirst : 0x80 ≤ first.toNat := by
    by_contra hlt
    rw [nextChar, hascii (by omega)] at h
    cases h
  unfold nextChar at h
  split at h
  · obtain ⟨-, -, rfl⟩ := Utf8Step.fault.inj h
    exact ⟨[first], rfl, List.cons_ne_nil _ _, by simpa using hfirst⟩
  · cases h
  · exact exists_append_of_nextSequence_fault hfirst h

theorem null_mem_decodeLossyFrom_iff {fuel : Nat} {octets : List UInt8}
    (h : octets.length ≤ fuel) : .char '\x00' ∈ decodeLossyFrom fuel octets ↔ 0 ∈ octets := by
  induction fuel generalizing octets with
  | zero =>
    obtain rfl : octets = [] := List.length_eq_zero_iff.1 (Nat.le_zero.1 h)
    simp [decodeLossyFrom]
  | succ fuel ih =>
    cases octets with
    | nil => simp [decodeLossyFrom]
    | cons first rest =>
      rw [decodeLossyFrom]
      cases hstep : nextChar first rest with
      | character c length after =>
        obtain ⟨octets, hc, hsplit, -⟩ := nextChar_eq_character_iff.1 hstep
        have hafter : after.length ≤ fuel := by
          have := length_after_lt hstep
          omega
        have hnull : (0 : UInt8) ∈ octets ↔ c = '\x00' := by
          rw [← isEncoding_iff.1 hc, mem_utf8EncodeChar_iff (by decide), ← Char.toNat_inj]
          rfl
        dsimp only
        rw [List.mem_cons, ih hafter, hsplit, List.mem_append, hnull, CodePoint.char.injEq,
          eq_comm]
      | fault length reason after =>
        obtain ⟨octets, hsplit, hne, hlow⟩ := exists_append_of_nextChar_fault hstep
        have hafter : after.length ≤ fuel := by
          have hpos := List.length_pos_iff.2 hne
          have hlength := congrArg List.length hsplit
          rw [List.length_append] at hlength
          omega
        have hnull : (0 : UInt8) ∉ octets := fun hmem => absurd (hlow 0 hmem) (by decide)
        dsimp only
        rw [List.mem_cons, ih hafter, hsplit, List.mem_append]
        simp [hnull]

/-- The null character comes from a zero octet alone. -/
theorem null_mem_decodeLossy_iff {octets : List UInt8} :
    .char '\x00' ∈ decodeLossy octets ↔ 0 ∈ octets :=
  null_mem_decodeLossyFrom_iff (Nat.le_refl _)

theorem isSurrogate_decodeLossyFrom (fuel : Nat) (octets : List UInt8) :
    ∀ c ∈ decodeLossyFrom fuel octets, c.isSurrogate = false := by
  induction fuel generalizing octets with
  | zero => cases octets <;> simp [decodeLossyFrom]
  | succ fuel ih =>
    cases octets with
    | nil => simp [decodeLossyFrom]
    | cons first rest =>
      rw [decodeLossyFrom]
      cases nextChar first rest with
      | character c length after => exact List.forall_mem_cons.2 ⟨rfl, ih after⟩
      | fault length reason after => exact List.forall_mem_cons.2 ⟨rfl, ih after⟩

end ServiceContract.Text
