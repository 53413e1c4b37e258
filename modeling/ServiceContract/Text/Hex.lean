import ServiceContract.Text.Basic

/-!
# Hexadecimal digits

`CodePoint.hexValue?` reads one digit, in capital or small letters; `hexDigits` writes a number
with small letters in a given number of places.
-/

namespace ServiceContract

/-- The value of a hexadecimal digit. -/
def CodePoint.hexValue? (c : CodePoint) : Option Nat :=
  let n := c.toNat
  if 48 ≤ n ∧ n ≤ 57 then some (n - 48)
  else if 97 ≤ n ∧ n ≤ 102 then some (n - 87)
  else if 65 ≤ n ∧ n ≤ 70 then some (n - 55)
  else none

/-- A hexadecimal digit. -/
def CodePoint.isHexDigit (c : CodePoint) : Bool := c.hexValue?.isSome

namespace Text

/-- The number that hexadecimal digits denote, the most significant first. -/
def hexNumber? (t : Text) : Option Nat :=
  t.foldlM (fun n c => c.hexValue?.map (16 * n + ·)) 0

/-- The hexadecimal digits of `n` in `width` places. -/
def hexDigits (width n : Nat) : String :=
  String.ofList ((List.range width).reverse.map fun i => Nat.digitChar (n / Nat.pow 16 i % 16))

example : hexNumber? "00e9" = some 0xE9 ∧ hexDigits 4 0xE9 = "00e9" := by decide

end Text

end ServiceContract
