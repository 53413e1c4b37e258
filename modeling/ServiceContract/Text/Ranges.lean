import ServiceContract.Text.Basic

/-!
# Classes of code points as ranges

A property of code points is given by the ranges of those that have it, in ascending order.
`covers` asks whether a code point lies in one of them.
-/

namespace ServiceContract.Text

/-- Ranges of code points, both ends included. -/
abbrev Ranges := List (Nat × Nat)

/-- Some range holds the code point. -/
def Ranges.covers (ranges : Ranges) (c : CodePoint) : Bool :=
  ranges.any fun (first, last) => first ≤ c.toNat && c.toNat ≤ last

end ServiceContract.Text
