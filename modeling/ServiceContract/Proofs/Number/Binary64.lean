import Mathlib.Algebra.Group.Nat.Defs
import Mathlib.Tactic.SplitIfs
import ServiceContract.Number.Binary64

/-!
# The range of doubles

An integer has a nearest double exactly when its magnitude is below `overflow`, which is half a
unit of the last place past the greatest double (`ofInt?_eq_none_iff`).
-/

namespace ServiceContract.Number.Binary64

/-! ### Rounding -/

theorem roundDiv_le (num den : Nat) : roundDiv num den ≤ num / den + 1 := by
  unfold roundDiv
  dsimp only
  split_ifs <;> omega

theorem div_le_roundDiv (num den : Nat) : num / den ≤ roundDiv num den := by
  unfold roundDiv
  dsimp only
  split_ifs <;> omega

/-- A quotient is rounded past an odd number from the middle above that number on. -/
theorem lt_roundDiv_iff_of_odd {num den k : Nat} (hden : 0 < den) (hk : k % 2 = 1) :
    k < roundDiv num den ↔ (2 * k + 1) * den ≤ 2 * num := by
  have hdiv := Nat.div_add_mod num den
  have hrest := Nat.mod_lt num hden
  have hmul : (2 * k + 1) * den = 2 * (den * k) + den := by
    rw [Nat.succ_mul, Nat.mul_assoc, Nat.mul_comm k]
  rw [hmul]
  rcases Nat.lt_trichotomy (num / den) k with hq | hq | hq
  · have hle := roundDiv_le num den
    have hstep : den * (num / den + 1) ≤ den * k := Nat.mul_le_mul_left den hq
    rw [Nat.mul_succ] at hstep
    omega
  · -- An odd number is left at the middle.
    rw [hq] at hdiv
    unfold roundDiv
    dsimp only
    rw [hq]
    split_ifs <;> omega
  · have hle := div_le_roundDiv num den
    have hstep : den * (k + 1) ≤ den * (num / den) := Nat.mul_le_mul_left den hq
    rw [Nat.mul_succ] at hstep
    omega

/-! ### Integers -/

theorem binaryOrder_one {n : Nat} (hn : n ≠ 0) : binaryOrder n 1 = n.log2 := by
  have hself : 2 ^ n.log2 ≤ n := Nat.log2_self_le hn
  have hone : Nat.log2 1 = 0 := by decide
  simp [binaryOrder, hone, hself]

/-- The middle between `2 ^ (54 + j)` and the number before it that has at most 53 binary digits
before its zeros. -/
def lastMiddle (j : Nat) : Nat := 2 ^ (54 + j) - 2 ^ j

theorem lastMiddle_pos (j : Nat) : 0 < lastMiddle j :=
  Nat.sub_pos_of_lt (Nat.pow_lt_pow_of_lt Nat.one_lt_two (by omega))

/-- A number of `54 + j` binary digits that is cut to 53 of them is rounded up to the next power
of two from the middle before it on. -/
theorem carries_iff {m j : Nat} (hm : m.log2 = 53 + j) :
    roundDiv m (2 ^ (j + 1)) = 2 ^ 53 ↔ lastMiddle j ≤ m := by
  have hm' : m < 2 ^ (53 + j + 1) := hm ▸ Nat.lt_log2_self
  have hpos : 0 < 2 ^ j := Nat.two_pow_pos j
  have h53 : 2 ^ (53 + j + 1) = 2 ^ 53 * 2 ^ (j + 1) := by rw [← Nat.pow_add]; rfl
  have h54 : 2 ^ (54 + j) = 2 ^ 54 * 2 ^ j := Nat.pow_add ..
  have hsucc : 2 ^ (j + 1) = 2 * 2 ^ j := Nat.pow_succ'
  have hquot : m / 2 ^ (j + 1) < 2 ^ 53 := by
    rw [Nat.div_lt_iff_lt_mul (Nat.two_pow_pos _)]
    omega
  have hle := roundDiv_le m (2 ^ (j + 1))
  have hcarry : roundDiv m (2 ^ (j + 1)) = 2 ^ 53 ↔ 2 ^ 53 - 1 < roundDiv m (2 ^ (j + 1)) := by
    omega
  rw [hcarry, lt_roundDiv_iff_of_odd (Nat.two_pow_pos _) (by decide), hsucc, lastMiddle, h54]
  generalize 2 ^ j = p
  omega

/-- What has more than `54 + j` binary digits, or gets as many when it is cut to 53. -/
theorem exceeds_iff {m j : Nat} (hm : m ≠ 0) :
    54 + j ≤ m.log2 ∨ (m.log2 = 53 + j ∧ roundDiv m (2 ^ (j + 1)) = 2 ^ 53) ↔
      lastMiddle j ≤ m := by
  have hpos : 0 < 2 ^ j := Nat.two_pow_pos j
  have h54 : 2 ^ (54 + j) = 2 ^ 54 * 2 ^ j := Nat.pow_add ..
  have h53 : 2 ^ (53 + j) = 2 ^ 53 * 2 ^ j := Nat.pow_add ..
  rcases Nat.lt_trichotomy m.log2 (53 + j) with h | h | h
  · have hlt : m < 2 ^ (53 + j) := (Nat.log2_lt hm).1 h
    rw [lastMiddle]
    omega
  · rw [← carries_iff h]
    omega
  · have hle : 2 ^ (54 + j) ≤ m := (Nat.le_log2 hm).1 (by omega)
    rw [lastMiddle]
    omega

/-- Rounding a natural number overflows when its order is too great, or becomes so. -/
theorem ofRatio_one_infinite_iff {negative : Bool} {m j : Nat} (hj : (j + 1 : Nat) = maxExponent)
    (hm : m ≠ 0) : (∃ sign, ofRatio negative m 1 = .infinite sign) ↔
      54 + j ≤ m.log2 ∨ (m.log2 = 53 + j ∧ roundDiv m (2 ^ (j + 1)) = 2 ^ 53) := by
  have hexp : max ((m.log2 : Int) - 52) minExponent = m.log2 - 52 := by
    unfold minExponent
    omega
  have hlast : m.log2 = 53 + j →
      roundDiv (m * 2 ^ (-((m.log2 : Int) - 52)).toNat) (1 * 2 ^ ((m.log2 : Int) - 52).toNat) =
        roundDiv m (2 ^ (j + 1)) := by
    intro h
    have hdown : (-((m.log2 : Int) - 52)).toNat = 0 := by omega
    have hup : ((m.log2 : Int) - 52).toNat = j + 1 := by omega
    rw [hdown, hup, Nat.pow_zero, Nat.mul_one, Nat.one_mul]
  unfold ofRatio
  rw [if_neg hm, binaryOrder_one hm, hexp]
  dsimp only [Nat.pow_eq]
  generalize roundDiv _ (1 * _) = mantissa at hlast ⊢
  generalize roundDiv _ (2 ^ (j + 1)) = last at hlast ⊢
  by_cases hc : mantissa = 2 ^ 53
  · simp only [hc, if_true, ← hj]
    split_ifs <;> simp <;> omega
  · simp only [hc, if_false, ← hj]
    split_ifs <;> simp <;> omega

/-- The least magnitude of an integer that no double is near to: `2 ^ 1024 - 2 ^ 970`, the middle
between the greatest double and the next power of two. -/
def overflow : Nat := lastMiddle 970

/-- The integers that have a nearest double are those of a magnitude below `overflow`. -/
theorem ofInt?_eq_none_iff {n : Int} : ofInt? n = none ↔ overflow ≤ n.natAbs := by
  have hinfinite : ofInt? n = none ↔ ∃ sign, ofRatio (n < 0) n.natAbs 1 = .infinite sign := by
    unfold ofInt?
    cases ofRatio (n < 0) n.natAbs 1 <;> simp
  rw [hinfinite]
  by_cases hn : n = 0
  · have hpos : 0 < overflow := lastMiddle_pos 970
    have hnot : ¬overflow ≤ 0 := by omega
    rw [hn, Int.natAbs_zero, iff_false_right hnot]
    simp [ofRatio, zero]
  · have hne : n.natAbs ≠ 0 := Int.natAbs_ne_zero.2 hn
    exact (ofRatio_one_infinite_iff (j := 970) rfl hne).trans (exceeds_iff hne)

end ServiceContract.Number.Binary64
