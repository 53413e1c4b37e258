import Mathlib.Data.List.Infix
import Mathlib.Data.List.TakeWhile
import Mathlib.Tactic.SplitIfs
import ServiceContract.Json.Reader
import ServiceContract.Proofs.Outcome

/-!
# Where the reader of JSON text stops

A reader takes its value from the start of a text and leaves a suffix of it.  When it stops for an
integer that is too long, the digits of that integer stand in the text (`ReadsIn`); this holds for
every reader of a part, and so for whole texts (`hasLongInteger_of_read`).  The fuel that the readers
of values count down is never used up (`readAll_eq_of_fuel`).
-/

namespace ServiceContract.Json

open Outcome

/-- In the text stand `n` digits in a row, more than an integer may have. -/
def HasLongInteger (t : Text) (n : Nat) : Prop :=
  Number.digitLimit < n ∧ ∃ digits, digits <:+: t ∧ digits.length = n ∧
    ∀ c ∈ digits, CodePoint.isDigit c = true

/-- What a reader may answer at the start of a text: it leaves a suffix of the text, and the
integer that it stops at for its length is one of the text. -/
def ReadsIn {α : Type} (t : Text) : Except Stop (α × Text) → Prop
  | .ok (_, left) => left <:+ t
  | .error (.integerTooLong n) => HasLongInteger t n
  | .error _ => True

section

variable {α β : Type} {t left : Text} {r : Except Stop (α × Text)}

theorem HasLongInteger.of_suffix {n : Nat} (h : HasLongInteger left n) (hs : left <:+ t) :
    HasLongInteger t n := by
  obtain ⟨hn, digits, hd, hlength, hdigits⟩ := h
  exact ⟨hn, digits, hd.trans hs.isInfix, hlength, hdigits⟩

theorem ReadsIn.of_suffix (h : ReadsIn left r) (hs : left <:+ t) : ReadsIn t r := by
  match r, h with
  | .ok (_, rest), h => exact h.trans hs
  | .error (.integerTooLong n), h => exact HasLongInteger.of_suffix h hs
  | .error (.malformed _ _), _ => trivial
  | .error .tooDeep, _ => trivial

theorem ReadsIn.map {f : α × Text → β × Text} (h : ReadsIn t r) (hf : ∀ x, (f x).2 = x.2) :
    ReadsIn t (r.map f) := by
  match r, h with
  | .ok x, h =>
    change (f x).2 <:+ t
    rw [hf x]
    exact h
  | .error (.integerTooLong n), h => exact h
  | .error (.malformed _ _), _ => trivial
  | .error .tooDeep, _ => trivial

theorem ReadsIn.bind {f : α × Text → Except Stop (β × Text)} (h : ReadsIn t r)
    (hf : ∀ x left, ReadsIn left (f (x, left))) : ReadsIn t (r >>= f) := by
  match r, h with
  | .ok (x, left), h => exact (hf x left).of_suffix h
  | .error (.integerTooLong n), h => exact h
  | .error (.malformed _ _), _ => trivial
  | .error .tooDeep, _ => trivial

theorem skipSpace_suffix (t : Text) : skipSpace t <:+ t := List.dropWhile_suffix _

end

/-! ### Strings -/

/-- The fault of a string that has no closing quote. -/
def unterminated (n : Nat) (stop : Option Stop) : Stop :=
  stop.getD (.malformed .unterminatedString n)

theorem readText_eq (t : Text) :
    readText t = (readString none t).mapError (unterminated (t.length + 1)) := by
  unfold readText
  cases readString none t with
  | ok result => rfl
  | error stop => cases stop <;> rfl

theorem readsIn_readString (n : Nat) (pending : Option Nat) (t : Text) :
    ReadsIn t ((readString pending t).mapError (unterminated n)) := by
  fun_induction readString pending t with
  | case2 pending rest => exact List.suffix_cons _ _
  | case4 pending a b c d rest unit hunit hrest done pending' hunits ih =>
    rw [mapError_map]
    refine ReadsIn.map ?_ fun _ => rfl
    exact ih.of_suffix (List.suffix_append [CodePoint.char '\\', .char 'u', a, b, c, d] rest)
  | case7 pending c rest _ _ e he ih =>
    rw [mapError_map]
    refine ReadsIn.map ?_ fun _ => rfl
    exact ih.of_suffix (List.suffix_append [CodePoint.char '\\', c] rest)
  | case11 pending c rest _ _ _ _ _ hc ih =>
    rw [mapError_map]
    refine ReadsIn.map ?_ fun _ => rfl
    exact ih.of_suffix (List.suffix_cons c rest)
  | _ => trivial

theorem readsIn_readText (t : Text) : ReadsIn t (readText t) := by
  rw [readText_eq]
  exact readsIn_readString _ none t

/-! ### Numbers -/

theorem readWhole_eq_some {t digits left : Text} (h : readWhole t = some (digits, left)) :
    t = digits ++ left ∧ ∀ c ∈ digits, CodePoint.isDigit c = true := by
  unfold readWhole at h
  split at h
  · rename_i rest
    obtain ⟨rfl, rfl⟩ : "0" = digits ∧ rest = left := by simpa using h
    exact ⟨rfl, by decide⟩
  · dsimp only at h
    split_ifs at h
    obtain ⟨rfl, rfl⟩ :
        t.takeWhile CodePoint.isDigit = digits ∧ t.dropWhile CodePoint.isDigit = left := by
      simpa using h
    exact ⟨List.takeWhile_append_dropWhile.symm, fun c hc => List.mem_takeWhile_imp hc⟩

theorem readFraction_suffix (t : Text) : (readFraction t).2 <:+ t := by
  unfold readFraction
  split
  · rename_i rest
    dsimp only
    split_ifs
    · exact List.suffix_rfl
    · exact (List.dropWhile_suffix _).trans (List.suffix_cons _ rest)
  · exact List.suffix_rfl

theorem splitSign_suffix (t : Text) : (Number.splitSign t).2 <:+ t := by
  unfold Number.splitSign
  split
  · exact List.suffix_cons _ _
  · exact List.suffix_cons _ _
  · exact List.suffix_rfl

theorem readExponent_suffix (t : Text) : (readExponent t).2 <:+ t := by
  unfold readExponent
  split
  · exact List.suffix_rfl
  · rename_i mark rest
    have hsign := splitSign_suffix rest
    dsimp only
    split_ifs
    · exact List.suffix_rfl
    · exact ((List.dropWhile_suffix _).trans hsign).trans (List.suffix_cons mark rest)
    · exact List.suffix_rfl

theorem readNumeral_eq_some {t left : Text} {numeral : Numeral}
    (h : readNumeral t = some (numeral, left)) :
    left <:+ t ∧ numeral.whole <:+: t ∧ ∀ c ∈ numeral.whole, CodePoint.isDigit c = true := by
  unfold readNumeral at h
  split at h
  rename_i negative unsigned hsign
  have hunsigned : unsigned <:+ t := by
    split at hsign
    · obtain ⟨-, rfl⟩ := Prod.mk.inj hsign
      exact List.suffix_cons _ _
    · obtain ⟨-, rfl⟩ := Prod.mk.inj hsign
      exact List.suffix_rfl
  obtain ⟨⟨whole, rest⟩, hwhole, hnumeral⟩ := Option.map_eq_some_iff.1 h
  obtain ⟨rfl, rfl⟩ := Prod.mk.inj hnumeral
  obtain ⟨rfl, hdigits⟩ := readWhole_eq_some hwhole
  have hrest : rest <:+ t := (List.suffix_append whole rest).trans hunsigned
  exact ⟨((readExponent_suffix _).trans (readFraction_suffix rest)).trans hrest,
    (List.prefix_append whole rest).isInfix.trans hunsigned.isInfix, hdigits⟩

theorem readConstant?_eq_some {t left : Text} {value : Value}
    (h : readConstant? t = some (value, left)) : left <:+ t := by
  unfold readConstant? at h
  obtain ⟨⟨name, v⟩, -, hv⟩ := List.exists_of_findSome?_eq_some h
  dsimp only at hv
  split_ifs at hv
  obtain ⟨-, rfl⟩ : v = value ∧ t.drop name.length = left := by simpa using hv
  exact List.drop_suffix _ _

theorem readsIn_readScalar (t : Text) : ReadsIn t (readScalar t) := by
  unfold readScalar
  cases hc : readConstant? t with
  | some result => exact readConstant?_eq_some hc
  | none =>
    cases hn : readNumeral t with
    | none => trivial
    | some result =>
      obtain ⟨numeral, left⟩ := result
      obtain ⟨hleft, hwhole, hdigits⟩ := readNumeral_eq_some hn
      dsimp only
      unfold Numeral.value
      split_ifs with hint hlimit
      · exact ⟨hlimit, numeral.whole, hwhole, rfl, hdigits⟩
      · exact hleft
      · exact hleft

/-! ### Values -/

section

variable {fuel : Nat}

theorem readsIn_readValue_succ
    (hmembers : ∀ depth members t, ReadsIn t (readMembers fuel depth members t))
    (hitems : ∀ depth t, ReadsIn t (readItems fuel depth t)) (depth : Nat) (t : Text) :
    ReadsIn t (readValue (fuel + 1) depth t) := by
  unfold readValue
  split
  · rename_i rest
    refine ReadsIn.map ?_ fun _ => rfl
    exact (readsIn_readText rest).of_suffix (List.suffix_cons _ rest)
  · rename_i rest
    split
    · trivial
    · have hspace : skipSpace rest <:+ .char '{' :: rest :=
        (skipSpace_suffix rest).trans (List.suffix_cons _ rest)
      split
      · rename_i left hleft
        exact (List.suffix_cons _ left).trans (hleft ▸ hspace)
      · refine ReadsIn.map ?_ fun _ => rfl
        exact (hmembers _ _ _).of_suffix hspace
  · rename_i rest
    split
    · trivial
    · have hspace : skipSpace rest <:+ .char '[' :: rest :=
        (skipSpace_suffix rest).trans (List.suffix_cons _ rest)
      split
      · rename_i left hleft
        exact (List.suffix_cons _ left).trans (hleft ▸ hspace)
      · refine ReadsIn.map ?_ fun _ => rfl
        exact (hitems _ _).of_suffix hspace
  · exact readsIn_readScalar t

theorem readsIn_readMembers_succ (hvalue : ∀ depth t, ReadsIn t (readValue fuel depth t))
    (hmembers : ∀ depth members t, ReadsIn t (readMembers fuel depth members t))
    (depth : Nat) (members : Members) (t : Text) :
    ReadsIn t (readMembers (fuel + 1) depth members t) := by
  unfold readMembers
  split
  · rename_i rest
    refine ReadsIn.of_suffix ?_ (List.suffix_cons _ rest)
    refine (readsIn_readText rest).bind fun key left => ?_
    refine ReadsIn.of_suffix ?_ (skipSpace_suffix left)
    dsimp only
    split
    · rename_i left' hleft
      rw [hleft]
      refine ReadsIn.of_suffix ?_ (List.suffix_cons _ left')
      refine ReadsIn.of_suffix ?_ (skipSpace_suffix left')
      refine (hvalue _ _).bind fun value left => ?_
      refine ReadsIn.of_suffix ?_ (skipSpace_suffix left)
      dsimp only
      split
      · rename_i left' hleft
        rw [hleft]
        exact List.suffix_cons _ left'
      · rename_i left' hleft
        rw [hleft]
        exact (hmembers _ _ _).of_suffix
          ((skipSpace_suffix left').trans (List.suffix_cons _ left'))
      · trivial
    · trivial
  · trivial

theorem readsIn_readItems_succ (hvalue : ∀ depth t, ReadsIn t (readValue fuel depth t))
    (hitems : ∀ depth t, ReadsIn t (readItems fuel depth t)) (depth : Nat) (t : Text) :
    ReadsIn t (readItems (fuel + 1) depth t) := by
  unfold readItems
  refine (hvalue depth t).bind fun value left => ?_
  refine ReadsIn.of_suffix ?_ (skipSpace_suffix left)
  dsimp only
  split
  · rename_i left' hleft
    rw [hleft]
    exact List.suffix_cons _ left'
  · rename_i left' hleft
    rw [hleft]
    refine ReadsIn.map ?_ fun _ => rfl
    exact (hitems _ _).of_suffix ((skipSpace_suffix left').trans (List.suffix_cons _ left'))
  · trivial

/-- The readers of values, members and items keep to the text they read. -/
theorem readsIn_readers (fuel : Nat) :
    (∀ depth t, ReadsIn t (readValue fuel depth t)) ∧
    (∀ depth members t, ReadsIn t (readMembers fuel depth members t)) ∧
    ∀ depth t, ReadsIn t (readItems fuel depth t) := by
  induction fuel with
  | zero => exact ⟨fun _ _ => trivial, fun _ _ _ => trivial, fun _ _ => trivial⟩
  | succ fuel ih =>
    obtain ⟨hvalue, hmembers, hitems⟩ := ih
    exact ⟨readsIn_readValue_succ hmembers hitems, readsIn_readMembers_succ hvalue hmembers,
      readsIn_readItems_succ hvalue hitems⟩

end

/-! ### Fuel

A bracket takes two steps, one as a value and one before its first item, and every other step
passes a comma: with fuel for two steps per code point the readers never run out of it.
-/

section

variable {fuel : Nat}

theorem skipSpace_length_le (t : Text) : (skipSpace t).length ≤ t.length :=
  (skipSpace_suffix t).length_le

/-- After white space and one more code point of what a reader leaves, less than its text is
left. -/
theorem ReadsIn.length_lt {α : Type} {t left left' : Text} {x : α} {c : CodePoint}
    (h : ReadsIn t (.ok (x, left))) (hleft : skipSpace left = c :: left') :
    left'.length < t.length := by
  have hspace := skipSpace_length_le left
  rw [hleft, List.length_cons] at hspace
  have hsuffix : left.length ≤ t.length := List.IsSuffix.length_le h
  omega

/-- For texts with at most half as many code points, one more step of fuel changes nothing. -/
structure IsSteady (fuel : Nat) : Prop where
  value : ∀ depth t, 2 * t.length < fuel → readValue (fuel + 1) depth t = readValue fuel depth t
  members : ∀ depth members t, 2 * t.length + 1 < fuel →
    readMembers (fuel + 1) depth members t = readMembers fuel depth members t
  items : ∀ depth t, 2 * t.length + 1 < fuel →
    readItems (fuel + 1) depth t = readItems fuel depth t

theorem IsSteady.value_succ (hs : IsSteady fuel) (depth : Nat) (t : Text)
    (h : 2 * t.length < fuel + 1) :
    readValue (fuel + 2) depth t = readValue (fuel + 1) depth t := by
  rw [readValue.eq_def (fuel + 2), readValue.eq_def (fuel + 1)]
  dsimp only
  split
  · rfl
  · rename_i rest
    rw [List.length_cons] at h
    have hspace := skipSpace_length_le rest
    split
    · rfl
    · split
      · rfl
      · rw [hs.members _ _ _ (by omega)]
  · rename_i rest
    rw [List.length_cons] at h
    have hspace := skipSpace_length_le rest
    split
    · rfl
    · split
      · rfl
      · rw [hs.items _ _ (by omega)]
  · rfl

theorem IsSteady.members_succ (hs : IsSteady fuel) (depth : Nat) (members : Members) (t : Text)
    (h : 2 * t.length + 1 < fuel + 1) :
    readMembers (fuel + 2) depth members t = readMembers (fuel + 1) depth members t := by
  rw [readMembers.eq_def (fuel + 2), readMembers.eq_def (fuel + 1)]
  dsimp only
  split
  · rename_i rest
    rw [List.length_cons] at h
    have hkey := readsIn_readText rest
    cases hr : readText rest with
    | error stop => rfl
    | ok result =>
      obtain ⟨key, left⟩ := result
      rw [hr] at hkey
      dsimp only [bind, Except.bind]
      split
      · rename_i left' hleft
        have hlength := hkey.length_lt hleft
        have hspace := skipSpace_length_le left'
        rw [hs.value _ _ (by omega)]
        have hvalue := (readsIn_readers fuel).1 depth (skipSpace left')
        cases hv : readValue fuel depth (skipSpace left') with
        | error stop => rfl
        | ok result =>
          obtain ⟨value, rest'⟩ := result
          rw [hv] at hvalue
          dsimp only
          split
          · rfl
          · rename_i rest'' hrest
            have hlength' := hvalue.length_lt hrest
            have hspace' := skipSpace_length_le rest''
            exact hs.members _ _ _ (by omega)
          · rfl
      · rfl
  · rfl

theorem IsSteady.items_succ (hs : IsSteady fuel) (depth : Nat) (t : Text)
    (h : 2 * t.length + 1 < fuel + 1) :
    readItems (fuel + 2) depth t = readItems (fuel + 1) depth t := by
  rw [readItems.eq_def (fuel + 2), readItems.eq_def (fuel + 1)]
  dsimp only
  rw [hs.value _ _ (by omega)]
  have hvalue := (readsIn_readers fuel).1 depth t
  cases hv : readValue fuel depth t with
  | error stop => rfl
  | ok result =>
    obtain ⟨value, left⟩ := result
    rw [hv] at hvalue
    dsimp only [bind, Except.bind]
    split
    · rfl
    · rename_i left' hleft
      have hlength := hvalue.length_lt hleft
      have hspace := skipSpace_length_le left'
      rw [hs.items _ _ (by omega)]
    · rfl

theorem isSteady (fuel : Nat) : IsSteady fuel := by
  induction fuel with
  | zero =>
    exact ⟨fun _ _ h => absurd h (Nat.not_lt_zero _), fun _ _ _ h => absurd h (Nat.not_lt_zero _),
      fun _ _ h => absurd h (Nat.not_lt_zero _)⟩
  | succ fuel ih => exact ⟨ih.value_succ, ih.members_succ, ih.items_succ⟩

theorem readValue_add_fuel {depth : Nat} {t : Text} (h : 2 * t.length < fuel) (more : Nat) :
    readValue (fuel + more) depth t = readValue fuel depth t := by
  induction more with
  | zero => rfl
  | succ more ih => rw [← Nat.add_assoc, (isSteady _).value depth t (by omega), ih]

end

/-! ### Whole texts -/

/-- The fuel that a text is read with is enough: more of it reads no text differently. -/
theorem readAll_eq_of_fuel (t : Text) (more : Nat) :
    readAll t = (do
      let (value, left) ← readValue (2 * t.length + 2 + more) depthLimit (skipSpace t)
      match skipSpace left with
      | [] => .ok value
      | left => .error (.malformed .extraData left.length)) := by
  have hspace := skipSpace_length_le t
  rw [readValue_add_fuel (by omega)]
  rfl

theorem hasLongInteger_of_readAll {t : Text} {n : Nat}
    (h : readAll t = .error (.integerTooLong n)) : HasLongInteger t n := by
  have hvalue := (readsIn_readers (2 * t.length + 2)).1 depthLimit (skipSpace t)
  unfold readAll at h
  cases hr : readValue (2 * t.length + 2) depthLimit (skipSpace t) with
  | error stop =>
    rw [hr] at h hvalue
    obtain rfl : stop = .integerTooLong n := Except.error.inj h
    exact HasLongInteger.of_suffix hvalue (skipSpace_suffix t)
  | ok result =>
    obtain ⟨value, left⟩ := result
    cases hs : skipSpace left with
    | nil => simp [hr, hs, bind, Except.bind] at h
    | cons c rest => simp [hr, hs, bind, Except.bind] at h

/-- A text whose reading stops at an integer for its length has the digits of that integer. -/
theorem hasLongInteger_of_read {t : Text} {n : Nat} (h : read t = .error (.integerTooLong n)) :
    HasLongInteger t n := by
  unfold read at h
  split at h
  · simp at h
  · cases hr : readAll t with
    | ok value => simp [hr, Except.mapError] at h
    | error stop =>
      rw [hr] at h
      cases stop with
      | malformed complaint left => simp [Except.mapError, Stop.toFault] at h
      | tooDeep => simp [Except.mapError, Stop.toFault] at h
      | integerTooLong digits =>
        obtain rfl : digits = n := by simpa [Except.mapError, Stop.toFault] using h
        exact hasLongInteger_of_readAll hr

end ServiceContract.Json
