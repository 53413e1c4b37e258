import Mathlib.Data.List.TakeWhile
import ServiceContract.Number.Integer

/-!
# Signed numerals

A signed numeral is a run of decimal digits after at most a minus sign.  `readInteger` accepts
more than these, but on them it can fail for one reason only: a numeral with more than
`digitLimit` digits (`readInteger_of_isSignedNumeral`).
-/

namespace ServiceContract

/-! ### Decimal digits -/

theorem CodePoint.isDecimal_iff {c : CodePoint} :
    c.isDecimal = true ↔ ∃ range ∈ Text.decimalRanges, range.1 ≤ c.toNat ∧ c.toNat ≤ range.2 := by
  simp [CodePoint.isDecimal, CodePoint.digitValue?]

/-- The digits of all scripts lie in four stretches that hold no blanks. -/
theorem Text.decimalRanges_stretches : ∀ range ∈ Text.decimalRanges,
    (0x30 ≤ range.1 ∧ range.2 ≤ 0x39) ∨ (0x660 ≤ range.1 ∧ range.2 ≤ 0x1099) ∨
      (0x17E0 ≤ range.1 ∧ range.2 ≤ 0x1C59) ∨ 0xA620 ≤ range.1 := by
  decide

theorem CodePoint.isDecimal_stretches {c : CodePoint} (h : c.isDecimal = true) :
    (0x30 ≤ c.toNat ∧ c.toNat ≤ 0x39) ∨ (0x660 ≤ c.toNat ∧ c.toNat ≤ 0x1099) ∨
      (0x17E0 ≤ c.toNat ∧ c.toNat ≤ 0x1C59) ∨ 0xA620 ≤ c.toNat := by
  obtain ⟨range, hr, h₁, h₂⟩ := CodePoint.isDecimal_iff.1 h
  have := Text.decimalRanges_stretches range hr
  omega

theorem CodePoint.isBlank_of_isDecimal {c : CodePoint} (h : c.isDecimal = true) :
    c.isBlank = false := by
  have := CodePoint.isDecimal_stretches h
  simp only [CodePoint.isBlank, Bool.or_eq_false_iff, Bool.and_eq_false_iff,
    decide_eq_false_iff_not, beq_eq_false_iff_ne]
  omega

namespace Number

/-! ### Numerals -/

/-- A minus sign, and what follows it. -/
def splitMinus : Text → Bool × Text
  | .char '-' :: rest => (true, rest)
  | t => (false, t)

theorem splitMinus_eq (t : Text) :
    t = if (splitMinus t).1 then .char '-' :: (splitMinus t).2 else (splitMinus t).2 := by
  unfold splitMinus
  split <;> rfl

theorem isSignedNumeral_iff {t : Text} : isSignedNumeral t = true ↔
    (splitMinus t).2 ≠ [] ∧ ∀ c ∈ (splitMinus t).2, c.isDecimal = true := by
  unfold isSignedNumeral splitMinus
  split <;> simp

theorem splitSign_of_isSignedNumeral {t : Text} (h : isSignedNumeral t = true) :
    splitSign t = splitMinus t := by
  have hd := (isSignedNumeral_iff.1 h).2
  unfold splitSign
  split
  · rfl
  · exact absurd (hd '+' (by simp [splitMinus])) (by decide)
  · unfold splitMinus
    split
    · simp_all
    · rfl

/-- Neither the minus sign nor a digit is a blank. -/
theorem dropWhile_blank_of_isSignedNumeral {t : Text} (h : isSignedNumeral t = true) :
    t.dropWhile isIntegerBlank = t := by
  obtain ⟨hne, hd⟩ := isSignedNumeral_iff.1 h
  cases t with
  | nil => rfl
  | cons c rest =>
    have hc : isIntegerBlank c = false := by
      by_cases hm : c = '-'
      · subst hm
        decide
      · have hs : (splitMinus (c :: rest)).2 = c :: rest := by
          unfold splitMinus
          split <;> simp_all
        rw [hs] at hd
        simp [isIntegerBlank, CodePoint.isBlank_of_isDecimal (hd c (by simp))]
    simp [hc]

theorem filterMap_digitValue?_length {t : Text} (h : ∀ c ∈ t, c.isDecimal = true) :
    (t.filterMap CodePoint.digitValue?).length = t.length := by
  induction t with
  | nil => rfl
  | cons c rest ih =>
    obtain ⟨hc, hr⟩ := List.forall_mem_cons.1 h
    obtain ⟨value, hv⟩ := Option.isSome_iff_exists.1 hc
    rw [List.filterMap_cons_some hv, List.length_cons, List.length_cons, ih hr]

/-- There is no low line among digits. -/
theorem separatorsAreSingle_of_isDecimal {t : Text} (h : ∀ c ∈ t, c.isDecimal = true) :
    separatorsAreSingle t = true := by
  have hline : ∀ c ∈ t, c ≠ '_' := by
    rintro c hc rfl
    exact absurd (h _ hc) (by decide)
  simp only [separatorsAreSingle, Bool.and_eq_true, bne_iff_ne, List.all_eq_true]
  refine ⟨⟨fun hh => ?_, fun hl => ?_⟩, ?_⟩
  · exact hline _ (List.mem_of_head? hh) rfl
  · exact hline _ (List.mem_of_getLast? hl) rfl
  · rintro ⟨c, d⟩ hcd
    simp [hline c (List.of_mem_zip hcd).1]

/-- The integer that a signed numeral denotes; only its length can keep it from being read. -/
theorem readInteger_of_isSignedNumeral {t : Text} (h : isSignedNumeral t = true) :
    readInteger t =
      if digitLimit < (splitMinus t).2.length then .error (.tooLong (splitMinus t).2.length)
      else .ok (signed (splitMinus t).1
        (valueOfDigits ((splitMinus t).2.filterMap CodePoint.digitValue?))) := by
  obtain ⟨hne, hd⟩ := isSignedNumeral_iff.1 h
  have hall : ∀ c ∈ (splitMinus t).2, (c.isDecimal || c == '_') = true := by
    intro c hc
    simp [hd c hc]
  have hlen := filterMap_digitValue?_length hd
  have hnil : ((splitMinus t).2.filterMap CodePoint.digitValue?).isEmpty = false := by
    rw [List.isEmpty_eq_false_iff, ← List.length_pos_iff, hlen, List.length_pos_iff]
    exact hne
  unfold readInteger
  rw [dropWhile_blank_of_isSignedNumeral h, splitSign_of_isSignedNumeral h]
  simp only [List.takeWhile_eq_self_iff.2 hall, List.dropWhile_eq_nil_iff.2 hall,
    separatorsAreSingle_of_isDecimal hd, hnil, hlen]
  simp

end Number

end ServiceContract
