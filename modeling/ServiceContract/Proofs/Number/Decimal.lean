import Mathlib.Tactic.SplitIfs
import ServiceContract.Number.Layout

/-!
# Numerals as they are written

Integers and doubles are written as numerals of one form (`Written`): a sign, an integer part that
starts with a zero only if it is one, and perhaps a fraction and an exponent.  The numeral of an
integer has neither (`toString_int_eq`), that of a finite double at least one of the two
(`exists_written`).  The latter rests on the shortest decimal of a positive double being positive,
since no number in the interval of the double is zero.
-/

namespace ServiceContract.Number

/-! ### Written numerals -/

/-- Digits that an integer part may consist of: a zero, or digits of which the first is none. -/
def IsWhole (digits : List Char) : Prop :=
  digits = ['0'] ∨ ∃ c rest, digits = c :: rest ∧ c ≠ '0' ∧ ∀ d ∈ digits, d.isDigit = true

/-- The parts of a numeral; those of the exponent are whether it is negative, and its digits. -/
structure Written where
  negative : Bool
  whole : List Char
  fraction : List Char
  exponent : Option (Bool × List Char)

/-- The parts are those of a numeral. -/
structure Written.WellFormed (w : Written) : Prop where
  whole : IsWhole w.whole
  fraction : ∀ c ∈ w.fraction, c.isDigit = true
  exponent : ∀ e ∈ w.exponent, e.2 ≠ [] ∧ ∀ c ∈ e.2, c.isDigit = true

/-- The fraction with its point, if there is one. -/
def Written.fractionChars (w : Written) : List Char :=
  if w.fraction.isEmpty then [] else '.' :: w.fraction

/-- The exponent with its mark and its sign, if there is one. -/
def Written.exponentChars (w : Written) : List Char :=
  match w.exponent with
  | none => []
  | some (negative, digits) => 'e' :: (if negative then '-' else '+') :: digits

/-- A numeral in full. -/
def Written.chars (w : Written) : List Char :=
  (if w.negative then ['-'] else []) ++ w.whole ++ w.fractionChars ++ w.exponentChars

/-! ### Digits -/

theorem isDigit_of_mem_zeros {k : Nat} {c : Char} (h : c ∈ List.replicate k '0') :
    c.isDigit = true := by
  rw [List.eq_of_mem_replicate h]
  decide

theorem isDigit_of_mem_decimalDigits {n : Nat} {c : Char} (h : c ∈ decimalDigits n) :
    c.isDigit = true :=
  Nat.isDigit_of_mem_toDigits (by decide) (by decide) h

/-- The digits of a positive number do not start with a zero. -/
theorem exists_decimalDigits_eq {n : Nat} (h : n ≠ 0) :
    ∃ c rest, decimalDigits n = c :: rest ∧ c ≠ '0' := by
  induction n using Nat.strongRecOn with
  | _ n ih =>
    rw [decimalDigits, Nat.toDigits_eq_if (by decide)]
    split_ifs with hn
    · have hchar : ∀ m < 10, m ≠ 0 → Nat.digitChar m ≠ '0' := by decide
      exact ⟨_, [], rfl, hchar n hn h⟩
    · obtain ⟨c, rest, hc, hzero⟩ := ih (n / 10) (by omega) (by omega)
      rw [decimalDigits] at hc
      exact ⟨c, rest ++ [Nat.digitChar (n % 10)], by rw [hc, List.cons_append], hzero⟩

theorem IsWhole.isDigit {digits : List Char} (h : IsWhole digits) :
    ∀ c ∈ digits, c.isDigit = true := by
  rcases h with rfl | ⟨_, _, -, -, hdigits⟩
  · exact fun c hc => isDigit_of_mem_zeros (k := 1) hc
  · exact hdigits

theorem isWhole_append_replicate {n : Nat} (h : n ≠ 0) (k : Nat) :
    IsWhole (decimalDigits n ++ List.replicate k '0') := by
  obtain ⟨c, rest, hc, hzero⟩ := exists_decimalDigits_eq h
  refine Or.inr ⟨c, rest ++ List.replicate k '0', by rw [hc, List.cons_append], hzero, ?_⟩
  intro d hd
  rcases List.mem_append.1 hd with hd | hd
  · exact isDigit_of_mem_decimalDigits hd
  · exact isDigit_of_mem_zeros hd

theorem isWhole_take {n : Nat} (h : n ≠ 0) (k : Nat) :
    IsWhole ((decimalDigits n).take (k + 1)) := by
  obtain ⟨c, rest, hc, hzero⟩ := exists_decimalDigits_eq h
  refine Or.inr ⟨c, rest.take k, by rw [hc, List.take_succ_cons], hzero, fun d hd => ?_⟩
  exact isDigit_of_mem_decimalDigits (List.mem_of_mem_take hd)

theorem isWhole_decimalDigits (n : Nat) : IsWhole (decimalDigits n) := by
  by_cases h : n = 0
  · subst h
    exact Or.inl rfl
  · simpa using isWhole_append_replicate h 0

theorem isDigit_of_mem_padLeft {width n : Nat} {c : Char}
    (h : c ∈ padLeft width (decimalDigits n)) : c.isDigit = true := by
  rcases List.mem_append.1 h with h | h
  · exact isDigit_of_mem_zeros h
  · exact isDigit_of_mem_decimalDigits h

/-! ### Integers -/

/-- The numeral of an integer. -/
def writtenInt (n : Int) : Written := ⟨n < 0, decimalDigits n.natAbs, [], none⟩

theorem writtenInt_wellFormed (n : Int) : (writtenInt n).WellFormed where
  whole := isWhole_decimalDigits n.natAbs
  fraction := fun _ h => nomatch h
  exponent := fun _ h => nomatch h

theorem toString_int_eq (n : Int) : toString n = String.ofList (writtenInt n).chars := by
  have hchars : (writtenInt n).chars =
      (if n < 0 then ['-'] else []) ++ decimalDigits n.natAbs := by
    simp [Written.chars, writtenInt, Written.fractionChars, Written.exponentChars]
  change n.repr = _
  rw [hchars, Int.repr_eq_if]
  by_cases h : 0 ≤ n
  · have hn : n.toNat = n.natAbs := by omega
    rw [if_pos h, if_neg (by omega), hn, Nat.repr_eq_ofList_toDigits]
    rfl
  · have hn : (-n).toNat = n.natAbs := by omega
    rw [if_neg h, if_pos (by omega), hn, Nat.repr_eq_ofList_toDigits, String.ofList_append]
    rfl

/-! ### Shortest decimals -/

theorem pos_of_holds {m : Nat} {e : Int} {unit x : Nat} (hm : m ≠ 0) (hunit : 0 < unit)
    (h : (interval m e).holds unit x = true) : 0 < x := by
  have hlow : 0 < (interval m e).low := by
    simp only [interval]
    split_ifs <;> omega
  have hpos : 0 < (interval m e).low * unit := Nat.mul_pos hlow hunit
  unfold Interval.holds at h
  split_ifs at h
  · simp only [Bool.and_eq_true, decide_eq_true_eq] at h
    omega
  · simp only [Bool.and_eq_true, decide_eq_true_eq] at h
    omega

/-- A hit on a grid is positive: zero is not in the interval, and above the middle there are only
positive multiples. -/
theorem onGrid?_ne_zero {m n : Nat} {e q : Int} (hm : m ≠ 0) (h : onGrid? m e q = some n) :
    n ≠ 0 := by
  have hunit : 0 < Nat.pow 2 (e - 2).toNat * Nat.pow 10 (-q).toNat :=
    Nat.mul_pos (Nat.pow_pos (by decide)) (Nat.pow_pos (by decide))
  have hne : ∀ {k step : Nat}, (interval m e).holds
      (Nat.pow 2 (e - 2).toNat * Nat.pow 10 (-q).toNat) (k * step) = true → k ≠ 0 := by
    rintro k step hholds rfl
    have hpos := pos_of_holds hm hunit hholds
    omega
  unfold onGrid? at h
  dsimp only at h
  split at h
  · rename_i hbelow _
    exact Option.some.inj h ▸ hne hbelow
  · exact Option.some.inj h ▸ Nat.succ_ne_zero _
  · cases h
  · rename_i hbelow _
    have hbelow := hne hbelow
    obtain rfl := Option.some.inj h
    split_ifs
    · exact hbelow
    · exact Nat.succ_ne_zero _
    · exact Nat.ne_of_gt (Nat.lt_of_lt_of_le (Nat.pos_of_ne_zero hbelow) (Nat.le_add_right _ _))

theorem shortestFrom_ne_zero {m : Nat} {e order : Int} (hm : m ≠ 0) (digits fuel : Nat) :
    (shortestFrom m e order digits fuel).digits ≠ 0 := by
  induction fuel generalizing digits with
  | zero => exact hm
  | succ fuel ih =>
    unfold shortestFrom
    dsimp only
    split
    · rename_i n hn
      exact onGrid?_ne_zero hm hn
    · exact ih _

theorem normalize_ne_zero {d : Decimal} (h : d.digits ≠ 0) (fuel : Nat) :
    (d.normalize fuel).digits ≠ 0 := by
  induction fuel generalizing d with
  | zero => exact h
  | succ fuel ih =>
    unfold Decimal.normalize
    split_ifs with hd
    · refine ih ?_
      change d.digits / 10 ≠ 0
      omega
    · exact h

/-! ### Doubles -/

/-- The characters are those of a numeral without a sign that has a fraction or an exponent. -/
def IsUnsignedDouble (chars : List Char) : Prop :=
  ∃ w : Written, w.WellFormed ∧ (w.fraction ≠ [] ∨ w.exponent ≠ none) ∧ w.negative = false ∧
    chars = w.chars

theorem isUnsignedDouble_point {whole fraction : List Char} (hwhole : IsWhole whole)
    (hfraction : ∀ c ∈ fraction, c.isDigit = true) (hne : fraction ≠ []) :
    IsUnsignedDouble (whole ++ '.' :: fraction) := by
  refine ⟨⟨false, whole, fraction, none⟩, ⟨hwhole, hfraction, fun _ h => nomatch h⟩, Or.inl hne,
    rfl, ?_⟩
  simp [Written.chars, Written.fractionChars, Written.exponentChars, hne]

/-- A zero after the point makes digits a double. -/
theorem isUnsignedDouble_zero {whole : List Char} (h : IsWhole whole) :
    IsUnsignedDouble (whole ++ ['.', '0']) :=
  isUnsignedDouble_point h (fun _ hc => isDigit_of_mem_zeros (k := 1) hc) (List.cons_ne_nil _ _)

theorem isUnsignedDouble_exponent {n : Nat} (h : n ≠ 0) (p : Prop) [Decidable p]
    {exponent : List Char} (hexponent : ∀ c ∈ exponent, c.isDigit = true) (hne : exponent ≠ []) :
    IsUnsignedDouble ((decimalDigits n).take 1 ++
      (if (decimalDigits n).length = 1 then [] else '.' :: (decimalDigits n).drop 1) ++
        'e' :: (if p then '-' else '+') :: exponent) := by
  refine ⟨⟨false, (decimalDigits n).take 1, (decimalDigits n).drop 1, some (decide p, exponent)⟩,
    ⟨isWhole_take h 0, fun c hc => isDigit_of_mem_decimalDigits (List.mem_of_mem_drop hc), ?_⟩,
    Or.inr (Option.some_ne_none _), rfl, ?_⟩
  · intro e he
    obtain rfl := Option.mem_some_iff.1 he
    exact ⟨hne, hexponent⟩
  · obtain ⟨c, rest, hc, -⟩ := exists_decimalDigits_eq h
    cases rest with
    | nil => simp [Written.chars, Written.fractionChars, Written.exponentChars, hc]
    | cons c' rest => simp [Written.chars, Written.fractionChars, Written.exponentChars, hc]

/-- Whatever the layout is, a positive decimal is written with a fraction or an exponent. -/
theorem isUnsignedDouble_writeDecimal (layout : Layout) {d : Decimal} (h : d.digits ≠ 0) :
    IsUnsignedDouble (layout.writeDecimal d) := by
  have hdigits := normalize_ne_zero h 17
  have hne : ∀ n, decimalDigits n ≠ [] := fun _ => Nat.toDigits_ne_nil
  unfold Layout.writeDecimal
  generalize d.normalize 17 = d at hdigits
  dsimp only
  generalize horder : d.exponent + (decimalDigits d.digits).length - 1 = order
  by_cases hrange : layout.lowest ≤ order ∧ order ≤ layout.highest
  · rw [if_pos hrange]
    split_ifs with hint hpoint
    · exact isUnsignedDouble_zero (isWhole_append_replicate hdigits _)
    · refine isUnsignedDouble_point (isWhole_take hdigits _)
        (fun c hc => isDigit_of_mem_decimalDigits (List.mem_of_mem_drop hc)) ?_
      rw [ne_eq, List.drop_eq_nil_iff]
      omega
    · refine isUnsignedDouble_point (Or.inl rfl) (fun c hc => ?_)
        (List.append_ne_nil_of_right_ne_nil _ (hne _))
      exact (List.mem_append.1 hc).elim isDigit_of_mem_zeros isDigit_of_mem_decimalDigits
  · rw [if_neg hrange]
    exact isUnsignedDouble_exponent hdigits _ (fun c hc => isDigit_of_mem_padLeft hc)
      (List.append_ne_nil_of_right_ne_nil _ (hne _))

/-- A finite double is written as a numeral with a fraction or an exponent. -/
theorem exists_written (layout : Layout) {x : Binary64} (h : x.isFinite = true) :
    ∃ w : Written, w.WellFormed ∧ (w.fraction ≠ [] ∨ w.exponent ≠ none) ∧
      layout.write x = String.ofList w.chars := by
  cases x with
  | nan => cases h
  | infinite negative => cases h
  | finite negative mantissa exponent =>
    have hbody : IsUnsignedDouble (if mantissa = 0 then ['0', '.', '0']
        else layout.writeDecimal (shortest mantissa exponent)) := by
      split_ifs with hm
      · exact isUnsignedDouble_zero (Or.inl rfl)
      · exact isUnsignedDouble_writeDecimal layout (shortestFrom_ne_zero hm 1 17)
    obtain ⟨w, hw, hdouble, hsign, hchars⟩ := hbody
    refine ⟨{ w with negative := negative }, ⟨hw.whole, hw.fraction, hw.exponent⟩, hdouble, ?_⟩
    rw [Layout.write, hchars]
    simp [Written.chars, Written.fractionChars, Written.exponentChars, hsign]

end ServiceContract.Number
