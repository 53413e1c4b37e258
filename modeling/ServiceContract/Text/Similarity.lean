import ServiceContract.Text.Order

/-!
# Similar texts

Two texts share the longest piece that stands in both, and what the parts before it and the parts
after it share.  They are similar when at least three tenths of all their code points are shared,
each shared one counted once.  `similar` picks the known words most similar to a given one.
-/

namespace ServiceContract.Text

/-- A piece that stands in two texts, by the places where it starts. -/
structure CommonPiece where
  firstStart : Nat
  secondStart : Nat
  length : Nat
  deriving DecidableEq, Repr

/-- The length of the longest common start of two texts. -/
def commonStart : Text → Text → Nat
  | c :: s, d :: t => if c = d then commonStart s t + 1 else 0
  | _, _ => 0

/-- The ends of a text that are not empty, the longest first. -/
def ends : Text → List Text
  | [] => []
  | c :: rest => (c :: rest) :: ends rest

/-- The longest common pieces that start at two given places, by the place in the first text and
then by that in the second. -/
def commonPieces (s t : Text) : List CommonPiece :=
  (ends s).zipIdx.flatMap fun (u, i) => (ends t).zipIdx.map fun (v, j) => ⟨i, j, commonStart u v⟩

/-- The first of the longest pieces that two texts have in common. -/
def longestPiece (s t : Text) : CommonPiece :=
  (commonPieces s t).foldl (fun best p => if best.length < p.length then p else best) ⟨0, 0, 0⟩

/-- The number of code points that two texts share, with at most `fuel` pieces on end. -/
def sharedIn : (fuel : Nat) → Text → Text → Nat
  | 0, _, _ => 0
  | fuel + 1, s, t =>
    let p := longestPiece s t
    if p.length = 0 then 0
    else sharedIn fuel (s.take p.firstStart) (t.take p.secondStart) + p.length +
      sharedIn fuel (s.drop (p.firstStart + p.length)) (t.drop (p.secondStart + p.length))

/-- The number of code points that two texts share. -/
def shared (s t : Text) : Nat := sharedIn s.length s t

/-- A known word, the number of code points that it shares with a given one, and the number of
code points of both. -/
structure Candidate where
  word : Text
  common : Nat
  total : Nat

/-- The candidate for a given word. -/
def Candidate.of (given word : Text) : Candidate :=
  ⟨word, shared word given, word.length + given.length⟩

/-- The word is similar to the given one. -/
def Candidate.isSimilar (c : Candidate) : Bool := 3 * c.total ≤ 10 * c.common

/-- The first candidate is more similar to the given word; of two that are equally similar, the
greater word counts as such. -/
def Candidate.beats (c d : Candidate) : Bool :=
  d.common * c.total < c.common * d.total ||
    (d.common * c.total == c.common * d.total && d.word < c.word)

/-- Puts a candidate before the first one that it beats. -/
def insertRanked (c : Candidate) : List Candidate → List Candidate
  | [] => [c]
  | d :: rest => if c.beats d then c :: d :: rest else d :: insertRanked c rest

/-- The number of similar words that are picked at most. -/
def similarLimit : Nat := 3

/-- The known words that are most similar to a given one, in ascending order. -/
def similar (known : List Text) (given : Text) : List Text :=
  let candidates := (known.map (Candidate.of given)).filter Candidate.isSimilar
  sorted (((candidates.foldr insertRanked []).take similarLimit).map (·.word))

example : shared "abxcd" "abcd" = 4 := by decide

example : similar ["--config", "--version", "--json"] "--conf" =
    (["--config", "--json"] : List Text) := by decide +kernel

end ServiceContract.Text
