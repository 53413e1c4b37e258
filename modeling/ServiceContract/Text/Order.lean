import ServiceContract.Text.Basic

/-!
# Order of texts

Texts are ordered by the numbers of their code points, from left to right.
-/

namespace ServiceContract

instance : LT CodePoint := ⟨fun c d => c.toNat < d.toNat⟩

instance : DecidableRel (α := CodePoint) (· < ·) := fun c d => Nat.decLt c.toNat d.toNat

namespace Text

/-- Puts a text before the first one that is greater. -/
def insertSorted (t : Text) : List Text → List Text
  | [] => [t]
  | u :: rest => if u < t then u :: insertSorted t rest else t :: u :: rest

/-- The texts in ascending order. -/
def sorted (texts : List Text) : List Text :=
  texts.foldr insertSorted []

/-- The texts that occur more than once, each once, in ascending order. -/
def duplicates (texts : List Text) : List Text :=
  sorted (texts.eraseDups.filter fun t => 1 < texts.count t)

example : sorted ["b", "B", "é", "a"] = (["B", "a", "b", "é"] : List Text) := by decide

example : duplicates ["b", "a", "b", "c", "a"] = (["a", "b"] : List Text) := by decide

end Text

end ServiceContract
