import ServiceContract.Text.Basic

/-!
# Line ends

A line ends with a line feed, a carriage return, or both in this order.  `unifyLineEnds` writes
each of them as one line feed.
-/

namespace ServiceContract.Text

/-- The text with a line feed for every line end. -/
def unifyLineEnds : Text → Text
  | [] => []
  | .char '\r' :: .char '\n' :: rest => .char '\n' :: unifyLineEnds rest
  | c :: rest => (if c = '\r' then .char '\n' else c) :: unifyLineEnds rest

example : unifyLineEnds "a\r\nb\rc" = "a\nb\nc" := by decide

end ServiceContract.Text
