import Mathlib.Data.Nat.Digits.Defs
import ServiceContract.Proofs.Number.Integer
import ServiceContract.Proofs.Text.Order

/-!
# Spellings of integers

A signed numeral may begin with zeros, take its digits from any script, and have a minus sign
before a zero.  Its spelling is what is left without these: the sign and the values of the digits
that count.  Two numerals denote one integer exactly when they have one spelling
(`readInteger_eq_iff`).  A plain numeral can be written down again from its spelling, so plain
numerals that differ denote different integers.
-/

namespace ServiceContract

theorem CodePoint.digitValue?_lt {c : CodePoint} {value : Nat} (h : c.digitValue? = some value) :
    value < 10 := by
  obtain ⟨range, -, rfl⟩ := Option.map_eq_some_iff.1 h
  exact Nat.mod_lt _ (by decide)

theorem CodePoint.toNat_of_isDigit {c : CodePoint} (h : c.isDigit = true) :
    48 ≤ c.toNat ∧ c.toNat ≤ 57 := by
  cases c with
  | surrogate => cases h
  | char c =>
    simp only [CodePoint.isDigit, CodePoint.satisfies, Char.isDigit, Bool.and_eq_true,
      decide_eq_true_eq] at h
    exact h

/-- The value of an ASCII digit. -/
theorem CodePoint.digitValue?_of_isDigit {c : CodePoint} (h : c.isDigit = true) :
    c.digitValue? = some (c.toNat - 48) := by
  obtain ⟨hlow, hhigh⟩ := CodePoint.toNat_of_isDigit h
  have hvalue : c.toNat - 48 < 10 := by omega
  simp [CodePoint.digitValue?, Text.decimalRanges, hlow, hhigh, Nat.mod_eq_of_lt hvalue]

namespace Number

/-! ### Digits that count -/

/-- The digits from the first one on that is not zero. -/
def significant (digits : List Nat) : List Nat := digits.dropWhile (· == 0)

theorem valueOfDigits_significant (digits : List Nat) :
    valueOfDigits (significant digits) = valueOfDigits digits := by
  induction digits with
  | nil => rfl
  | cons digit rest ih =>
    cases digit with
    | zero => exact ih
    | succ n => rfl

theorem valueOfDigits_eq_ofDigits (digits : List Nat) :
    valueOfDigits digits = Nat.ofDigits 10 digits.reverse := by
  rw [Nat.ofDigits_eq_foldr, List.foldr_reverse]
  simp [valueOfDigits, Nat.add_comm]

/-- The decimal digits of the value are the digits that count. -/
theorem digits_valueOfDigits {digits : List Nat} (h : ∀ digit ∈ digits, digit < 10) :
    Nat.digits 10 (valueOfDigits digits) = (significant digits).reverse := by
  rw [← valueOfDigits_significant, valueOfDigits_eq_ofDigits]
  refine Nat.digits_ofDigits 10 (by decide) _ (fun digit hd => ?_) fun hne => ?_
  · exact h digit (List.dropWhile_sublist _ |>.subset (List.mem_reverse.1 hd))
  · rw [List.getLast_reverse]
    have hne' : significant digits ≠ [] := fun hnil => hne (by rw [hnil, List.reverse_nil])
    exact beq_eq_false_iff_ne.1 (List.head_dropWhile_not (· == 0) hne')

theorem valueOfDigits_eq_iff {digits digits' : List Nat} (h : ∀ digit ∈ digits, digit < 10)
    (h' : ∀ digit ∈ digits', digit < 10) :
    valueOfDigits digits = valueOfDigits digits' ↔ significant digits = significant digits' := by
  rw [← Nat.digits_inj_iff, digits_valueOfDigits h, digits_valueOfDigits h', List.reverse_inj]

theorem valueOfDigits_eq_zero_iff {digits : List Nat} (h : ∀ digit ∈ digits, digit < 10) :
    valueOfDigits digits = 0 ↔ significant digits = [] :=
  valueOfDigits_eq_iff h (List.forall_mem_nil _)

theorem signed_eq_iff {negative negative' : Bool} {m n : Nat} :
    signed negative m = signed negative' n ↔ m = n ∧ (m = 0 ∨ negative = negative') := by
  cases negative <;> cases negative' <;> simp [signed] <;> omega

theorem natAbs_signed (negative : Bool) (n : Nat) : (signed negative n).natAbs = n := by
  cases negative <;> simp [signed]

theorem valueOfDigits_lt {digits : List Nat} (h : ∀ digit ∈ digits, digit < 10) :
    valueOfDigits digits < 10 ^ digits.length := by
  rw [valueOfDigits_eq_ofDigits, ← List.length_reverse]
  exact Nat.ofDigits_lt_base_pow_length (by decide) fun digit hd => h digit (List.mem_reverse.1 hd)

/-! ### Spellings -/

/-- The values of the digits that count, and whether a minus sign stands before them. -/
def spelling (t : Text) : Bool × List Nat :=
  let digits := significant ((splitMinus t).2.filterMap CodePoint.digitValue?)
  ((splitMinus t).1 && !digits.isEmpty, digits)

theorem lt_of_mem_filterMap_digitValue? (t : Text) :
    ∀ digit ∈ t.filterMap CodePoint.digitValue?, digit < 10 := by
  intro digit hd
  obtain ⟨c, -, hc⟩ := List.mem_filterMap.1 hd
  exact CodePoint.digitValue?_lt hc

/-- A signed numeral that can be read denotes the integer of its digits. -/
theorem eq_signed_of_readInteger {t : Text} {n : Int} (ht : isSignedNumeral t = true)
    (h : readInteger t = .ok n) : n = signed (splitMinus t).1
      (valueOfDigits ((splitMinus t).2.filterMap CodePoint.digitValue?)) := by
  rw [readInteger_of_isSignedNumeral ht] at h
  split at h
  · cases h
  · exact (Except.ok.inj h).symm

/-- No integer is read from more digits than the limit. -/
theorem natAbs_lt_of_readInteger {t : Text} {n : Int} (h : readInteger t = .ok n) :
    n.natAbs < 10 ^ digitLimit := by
  unfold readInteger at h
  generalize splitSign (t.dropWhile isIntegerBlank) = split at h
  dsimp only at h
  generalize split.2.takeWhile (fun c : CodePoint => c.isDecimal || c == '_') = numeral at h
  split_ifs at h with _ hlimit
  obtain rfl := Except.ok.inj h
  rw [natAbs_signed]
  refine Nat.lt_of_lt_of_le (valueOfDigits_lt (lt_of_mem_filterMap_digitValue? numeral)) ?_
  exact Nat.pow_le_pow_right (by decide) (Nat.not_lt.1 hlimit)

/-- Signed numerals denote one integer exactly when they have one spelling. -/
theorem readInteger_eq_iff {t u : Text} {m n : Int} (ht : isSignedNumeral t = true)
    (hu : isSignedNumeral u = true) (hm : readInteger t = .ok m) (hn : readInteger u = .ok n) :
    m = n ↔ spelling t = spelling u := by
  have hdt := lt_of_mem_filterMap_digitValue? (splitMinus t).2
  have hdu := lt_of_mem_filterMap_digitValue? (splitMinus u).2
  rw [eq_signed_of_readInteger ht hm, eq_signed_of_readInteger hu hn, signed_eq_iff,
    valueOfDigits_eq_iff hdt hdu, valueOfDigits_eq_zero_iff hdt]
  unfold spelling
  rw [Prod.mk.injEq, and_comm]
  refine and_congr_left fun hdigits => ?_
  rw [← hdigits]
  -- without digits that count there is no sign either
  cases significant ((splitMinus t).2.filterMap CodePoint.digitValue?) <;> simp

example : spelling "0200" = spelling "200" ∧ spelling "٢٠٠" = spelling "200" ∧
    spelling "-0" = spelling "0" ∧ spelling "-200" ≠ spelling "200" := by decide

/-- Signed numerals of the spelling denote the integer. -/
def Spells (spelled : Bool × List Nat) (n : Int) : Prop :=
  ∃ t, isSignedNumeral t = true ∧ spelling t = spelled ∧ readInteger t = .ok n

theorem biUnique_spells : Relator.BiUnique Spells := by
  constructor
  · rintro _ _ n ⟨t, ht, rfl, hm⟩ ⟨u, hu, rfl, hn⟩
    exact (readInteger_eq_iff ht hu hm hn).1 rfl
  · rintro _ m n ⟨t, ht, rfl, hm⟩ ⟨u, hu, hspelling, hn⟩
    exact (readInteger_eq_iff ht hu hm hn).2 hspelling.symm

/-! ### Plain numerals -/

/-- Written with ASCII digits only, and with a zero in front only if it is zero without a sign. -/
def IsPlain (t : Text) : Prop :=
  t = "0" ∨ (splitMinus t).2 ≠ [] ∧ (splitMinus t).2.head? ≠ some (.char '0') ∧
    ∀ c ∈ (splitMinus t).2, c.isDigit = true

/-- The ASCII digit of a value. -/
def digitOf (value : Nat) : CodePoint := .char (Char.ofNat (value + 48))

theorem digitOf_toNat_sub {c : CodePoint} (h : c.isDigit = true) : digitOf (c.toNat - 48) = c := by
  obtain ⟨hlow, -⟩ := CodePoint.toNat_of_isDigit h
  cases c with
  | surrogate => cases h
  | char c =>
    have hlow : 48 ≤ c.toNat := hlow
    change CodePoint.char (Char.ofNat (c.toNat - 48 + 48)) = _
    rw [Nat.sub_add_cancel hlow, Char.ofNat_toNat]

/-- The plain numeral of a spelling. -/
def write : Bool × List Nat → Text
  | (_, []) => "0"
  | (true, digits) => .char '-' :: digits.map digitOf
  | (false, digits) => digits.map digitOf

theorem filterMap_digitValue?_of_isDigit {t : Text} (h : ∀ c ∈ t, c.isDigit = true) :
    t.filterMap CodePoint.digitValue? = t.map fun c => c.toNat - 48 := by
  induction t with
  | nil => rfl
  | cons c rest ih =>
    obtain ⟨hc, hrest⟩ := List.forall_mem_cons.1 h
    rw [List.filterMap_cons_some (CodePoint.digitValue?_of_isDigit hc), ih hrest, List.map_cons]

theorem map_digitOf {t : Text} (h : ∀ c ∈ t, c.isDigit = true) :
    (t.map fun c => c.toNat - 48).map digitOf = t := by
  rw [List.map_map]
  exact (List.map_congr_left fun c hc => digitOf_toNat_sub (h c hc)).trans (List.map_id t)

/-- All digits of a plain numeral but a lone zero count. -/
theorem significant_map_of_head {c : CodePoint} {rest : Text} (h : c.isDigit = true)
    (hc : c ≠ '0') : significant ((c :: rest).map fun d => d.toNat - 48) =
      (c :: rest).map fun d => d.toNat - 48 := by
  have hne : c.toNat ≠ 48 := fun heq => hc (CodePoint.toNat_injective heq)
  obtain ⟨hlow, -⟩ := CodePoint.toNat_of_isDigit h
  refine List.dropWhile_cons_of_neg ?_
  simp only [beq_iff_eq]
  omega

/-- A plain numeral can be written down again from its spelling. -/
theorem write_spelling {t : Text} (h : IsPlain t) : write (spelling t) = t := by
  rcases h with rfl | ⟨hne, hhead, hdigits⟩
  · rfl
  · obtain ⟨c, rest, hc⟩ := List.exists_cons_of_ne_nil hne
    rw [hc] at hhead hdigits
    have hzero : c ≠ '0' := fun heq => hhead (by rw [heq, List.head?_cons])
    have hspelling : spelling t =
        ((splitMinus t).1, (c :: rest).map fun d => d.toNat - 48) := by
      rw [spelling, hc, filterMap_digitValue?_of_isDigit hdigits,
        significant_map_of_head (hdigits c List.mem_cons_self) hzero]
      simp
    have hback := map_digitOf hdigits
    rw [hspelling]
    refine Eq.trans ?_ (splitMinus_eq t).symm
    rw [hc]
    cases (splitMinus t).1 with
    | false => exact hback
    | true => exact congrArg (List.cons (.char '-')) hback

theorem eq_of_spelling_eq {t u : Text} (ht : IsPlain t) (hu : IsPlain u)
    (h : spelling t = spelling u) : t = u := by
  rw [← write_spelling ht, h, write_spelling hu]

end Number

end ServiceContract
