import ServiceContract.Number.Binary64

/-!
# The shortest decimal of a double

Of the decimals that read back as a given double, `shortest` finds those with the fewest digits,
and of these the one nearest to the double.  The numbers that round to `m · 2 ^ e` fill an
interval around it whose ends belong to it when `m` is even; it reaches half a step to both
sides, or a quarter step down when `m` is the least mantissa of its power of two.
-/

namespace ServiceContract.Number

/-- The decimal `digits · 10 ^ exponent`. -/
structure Decimal where
  digits : Nat
  exponent : Int
  deriving DecidableEq, Repr

/-- The numbers that round to one double, in quarters of its step `2 ^ exponent`. -/
structure Interval where
  low : Nat
  middle : Nat
  high : Nat
  closed : Bool

/-- The interval of `m · 2 ^ e`. -/
def interval (m : Nat) (e : Int) : Interval where
  low := if m = Nat.pow 2 52 ∧ Binary64.minExponent < e then 4 * m - 1 else 4 * m - 2
  middle := 4 * m
  high := 4 * m + 2
  closed := m % 2 = 0

/-- The number `x` lies in the interval, both in the same unit. -/
def Interval.holds (i : Interval) (unit x : Nat) : Bool :=
  if i.closed then i.low * unit ≤ x && x ≤ i.high * unit
  else i.low * unit < x && x < i.high * unit

/-- The greatest `p` with `10 ^ p ≤ m · 2 ^ e`. -/
def decimalOrder (m : Nat) (e : Int) : Int :=
  let estimate : Int := ((m.log2 : Int) + e) * 30103 / 100000
  let reaches (p : Int) : Bool :=
    Nat.pow 10 p.toNat * Nat.pow 2 (-e).toNat ≤ m * Nat.pow 2 e.toNat * Nat.pow 10 (-p).toNat
  if reaches (estimate + 1) then estimate + 1
  else if reaches estimate then estimate
  else estimate - 1

/-- The multiple of `10 ^ q` that reads back as `m · 2 ^ e` and is nearest to it; of two that are
equally near, the even one. -/
def onGrid? (m : Nat) (e q : Int) : Option Nat :=
  let i := interval m e
  let e := e - 2
  let step := Nat.pow 10 q.toNat * Nat.pow 2 (-e).toNat
  let unit := Nat.pow 2 e.toNat * Nat.pow 10 (-q).toNat
  let middle := i.middle * unit
  let below := middle / step
  let above := below + 1
  match i.holds unit (below * step), i.holds unit (above * step) with
  | true, false => some below
  | false, true => some above
  | false, false => none
  | true, true =>
    let down := middle - below * step
    let up := above * step - middle
    some (if down < up then below else if up < down then above else below + below % 2)

/-- The first of the grids of 1 to 17 digits that has a hit. -/
def shortestFrom (m : Nat) (e order : Int) : (digits fuel : Nat) → Decimal
  | _, 0 => ⟨m, e⟩
  | digits, fuel + 1 =>
    let q := order - digits + 1
    match onGrid? m e q with
    | some n => ⟨n, q⟩
    | none => shortestFrom m e order (digits + 1) fuel

/-- The shortest decimal that reads back as the positive double `m · 2 ^ e`. -/
def shortest (m : Nat) (e : Int) : Decimal :=
  shortestFrom m e (decimalOrder m e) 1 17

example : shortest 1 (-1074) = ⟨5, -324⟩ := by decide +kernel

example : shortest (3 * 2 ^ 51) (-52) = ⟨15, -1⟩ := by decide +kernel

end ServiceContract.Number
