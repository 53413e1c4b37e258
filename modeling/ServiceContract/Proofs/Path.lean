import ServiceContract.Path
import ServiceContract.Proofs.Text.Blank
import ServiceContract.Proofs.Text.Order

/-!
# Placeholders of joined paths

A slash belongs to no placeholder, and it ends the one that is open.  So what is read before it
does not matter behind it (`scan_append_slash`), and slashes at the end of a path do not matter at
all (`scan_dropTrailing_slash`).  Joining two paths puts a slash between them; the placeholders of
the whole are therefore those of the first path and those of the second, in this order
(`occurrences_join`), each kept once (`placeholders_join`).
-/

namespace ServiceContract.Path

/-- The names of the placeholders of a path as they occur, also more than once. -/
def occurrences (path : Text) : List Text := scan .none path

/-! ### Slashes -/

theorem isWord_slash : CodePoint.isWord '/' = false := by
  decide

theorem after_slash : Open.after '/' = .none := by
  decide

/-- A slash closes what is open. -/
theorem scan_slash (o : Open) (t : Text) : scan o (.char '/' :: t) = scan o [] ++ scan .none t := by
  cases o with
  | none => simp [scan, after_slash]
  | colon name => simp [scan, after_slash, isWord_slash]
  | brace name => simp [scan, after_slash, isWord_slash]

/-- What is behind a slash is read as if nothing were before it. -/
theorem scan_append_slash (o : Open) (t rest : Text) :
    scan o (t ++ .char '/' :: rest) = scan o t ++ scan .none rest := by
  induction t generalizing o with
  | nil => exact scan_slash o rest
  | cons c t ih =>
    rw [List.cons_append]
    cases o with
    | none => rw [scan, scan, ih]
    | colon name =>
      rw [scan, scan]
      split_ifs
      · exact ih _
      · rw [ih, List.append_assoc]
    | brace name =>
      rw [scan, scan]
      split_ifs
      · exact ih _
      · rw [ih, List.append_assoc]
      · exact ih _

theorem scan_dropTrailing_slash (o : Open) (t : Text) :
    scan o (Text.dropTrailing (· == .char '/') t) = scan o t := by
  rw [Text.dropTrailing_eq_rdropWhile]
  induction t using List.reverseRecOn with
  | nil => rfl
  | append_singleton t c ih =>
    by_cases hc : c = .char '/'
    · have hslash : (c == .char '/') = true := beq_iff_eq.2 hc
      rw [List.rdropWhile_concat_pos (· == CodePoint.char '/') t c hslash, ih, hc,
        scan_append_slash]
      exact (List.append_nil _).symm
    · have hother : ¬ (c == .char '/') = true := by simpa using hc
      rw [List.rdropWhile_concat_neg (· == CodePoint.char '/') t c hother]

/-! ### Joining -/

/-- The placeholders of a joined path occur as they do in its parts. -/
theorem occurrences_join (resource : Text) (operation : Option Text) :
    occurrences (join resource operation) =
      occurrences resource ++ occurrences (operation.getD []) := by
  match operation with
  | none => exact (List.append_nil _).symm
  | some [] => exact (List.append_nil _).symm
  | some (c :: rest) =>
    unfold join occurrences
    dsimp only [Option.getD_some]
    split_ifs with hc
    · rw [hc, scan_append_slash, scan_dropTrailing_slash, scan_slash]
      rfl
    · rw [scan_append_slash, scan_dropTrailing_slash]

/-- The placeholders of a joined path are those of the resource's path and those of the
operation's path that are not among them, in this order.  They occur in the whole as often and in
the same order as in the two parts. -/
theorem placeholders_join (resource : Text) (operation : Option Text) :
    occurrences (join resource operation) =
      occurrences resource ++ occurrences (operation.getD []) ∧
    placeholders (join resource operation) = placeholders resource ++
      (placeholders (operation.getD [])).filter (· ∉ placeholders resource) := by
  have hoccurrences := occurrences_join resource operation
  refine ⟨hoccurrences, ?_⟩
  unfold occurrences at hoccurrences
  unfold placeholders
  rw [hoccurrences, Text.eraseDups_append]

end ServiceContract.Path
