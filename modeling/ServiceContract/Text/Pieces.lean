import ServiceContract.Text.Basic

/-!
# Pieces of lists

`pieces` cuts a list at every separator; there is always one piece more than separators.
-/

namespace ServiceContract.Text

/-- The pieces of a list between the separators. -/
def pieces {α : Type} [DecidableEq α] (separator : α) : List α → List (List α)
  | [] => [[]]
  | a :: rest =>
    if a = separator then [] :: pieces separator rest
    else match pieces separator rest with
      | piece :: others => (a :: piece) :: others
      | [] => [[a]]

example : pieces (.char '/') ("a//b" : Text) = (["a", "", "b"] : List Text) := by decide

end ServiceContract.Text
