import Mathlib.Data.List.TakeWhile
import ServiceContract.Json.Printer
import ServiceContract.Json.Reader
import ServiceContract.Proofs.Number.Decimal
import ServiceContract.Proofs.Number.Spelling
import ServiceContract.Proofs.Text.Pieces

/-!
# Reading printed numbers

A numeral before a text that it cannot go on with is read as its parts (`readNumeral_written`).
So a printed integer is read back as itself if its digits are within the limit
(`readScalar_int`), and a printed double as some double, or as null if it is not finite
(`readScalar_double`).
-/

namespace ServiceContract.Json

open Number (Written)

/-- A numeral does not go on with the text. -/
def NumeralEnds (rest : Text) : Prop :=
  ∀ c ∈ rest.head?, c.isDigit = false ∧ c ≠ '.' ∧ c ≠ 'e' ∧ c ≠ 'E'

/-- Characters as a text. -/
abbrev textOf (chars : List Char) : Text := chars.map .char

/-! ### Parts of numerals -/

section

variable {digits : List Char} {rest : Text}

theorem isDigit_textOf (h : ∀ c ∈ digits, c.isDigit = true) :
    ∀ c ∈ textOf digits, CodePoint.isDigit c = true :=
  List.forall_mem_map.2 h

theorem takeWhile_isDigit (h : ∀ c ∈ digits, c.isDigit = true)
    (hrest : ∀ c ∈ rest.head?, c.isDigit = false) :
    (textOf digits ++ rest).takeWhile CodePoint.isDigit = textOf digits :=
  Text.takeWhile_append_stop (isDigit_textOf h) hrest

theorem dropWhile_isDigit (h : ∀ c ∈ digits, c.isDigit = true)
    (hrest : ∀ c ∈ rest.head?, c.isDigit = false) :
    (textOf digits ++ rest).dropWhile CodePoint.isDigit = rest :=
  Text.dropWhile_append_stop (isDigit_textOf h) hrest

theorem readWhole_of_isWhole (h : Number.IsWhole digits)
    (hrest : ∀ c ∈ rest.head?, c.isDigit = false) :
    readWhole (textOf digits ++ rest) = some (textOf digits, rest) := by
  rcases h with rfl | ⟨c, more, rfl, hzero, hdigits⟩
  · rfl
  · have htake := takeWhile_isDigit hdigits hrest
    have hdrop := dropWhile_isDigit hdigits hrest
    unfold readWhole
    split
    · rename_i heq
      exact absurd (CodePoint.char.inj (List.cons.inj heq).1) hzero
    · rw [htake, hdrop]
      rfl

end

section

variable {w : Written} {rest : Text}

theorem readFraction_written (h : w.WellFormed)
    (hrest : ∀ c ∈ rest.head?, c.isDigit = false ∧ c ≠ '.') :
    readFraction (textOf w.fractionChars ++ rest) = (textOf w.fraction, rest) := by
  have hdigit : ∀ c ∈ rest.head?, c.isDigit = false := fun c hc => (hrest c hc).1
  by_cases hw : w.fraction = []
  · rw [Written.fractionChars, hw]
    unfold readFraction
    split
    · rename_i heq
      exact absurd rfl (hrest '.' (by rw [show rest = _ from heq]; rfl)).2
    · rfl
  · have htake := takeWhile_isDigit h.fraction hdigit
    have hdrop := dropWhile_isDigit h.fraction hdigit
    have hne : (textOf w.fraction).isEmpty = false := by simpa [textOf] using hw
    have hchars : textOf w.fractionChars ++ rest =
        .char '.' :: (textOf w.fraction ++ rest) := by
      simp [Written.fractionChars, hw]
    rw [hchars, readFraction, htake, hdrop, hne]
    rfl

/-- The exponent of a numeral. -/
def exponentOf (w : Written) : Option Int :=
  w.exponent.map fun e => Number.signed e.1 (Number.digitsValue (textOf e.2))

theorem readExponent_written (h : w.WellFormed) (hrest : NumeralEnds rest) :
    readExponent (textOf w.exponentChars ++ rest) = (exponentOf w, rest) := by
  have hdigit : ∀ c ∈ rest.head?, c.isDigit = false := fun c hc => (hrest c hc).1
  cases hw : w.exponent with
  | none =>
    have hchars : textOf w.exponentChars = [] := by simp [Written.exponentChars, hw]
    rw [hchars, List.nil_append, exponentOf, hw]
    cases rest with
    | nil => rfl
    | cons c rest =>
      obtain ⟨-, -, he, hE⟩ := hrest c rfl
      rw [readExponent, if_neg (not_or.2 ⟨he, hE⟩)]
      rfl
  | some e =>
    obtain ⟨negative, digits⟩ := e
    obtain ⟨hne, hdigits⟩ := h.exponent _ (hw ▸ Option.mem_some_self _)
    have hsign : Number.splitSign (.char (if negative then '-' else '+') ::
        (textOf digits ++ rest)) = (negative, textOf digits ++ rest) := by
      cases negative <;> rfl
    have hchars : textOf w.exponentChars ++ rest = .char 'e' ::
        .char (if negative then '-' else '+') :: (textOf digits ++ rest) := by
      simp [Written.exponentChars, hw]
    have hempty : (textOf digits).isEmpty = false := by simpa [textOf] using hne
    rw [hchars, readExponent, if_pos (Or.inl rfl)]
    dsimp only
    rw [hsign]
    dsimp only
    rw [takeWhile_isDigit hdigits hdigit, dropWhile_isDigit hdigits hdigit, hempty, exponentOf, hw]
    rfl

/-! ### Numerals -/

/-- The numeral that a reader makes of the parts. -/
def numeralOf (w : Written) : Numeral :=
  ⟨w.negative, textOf w.whole, textOf w.fraction, exponentOf w⟩

/-- What follows the fraction does not go on with it. -/
theorem isDigit_head_exponentChars (hrest : NumeralEnds rest) :
    ∀ c ∈ (textOf w.exponentChars ++ rest).head?, c.isDigit = false ∧ c ≠ '.' := by
  cases hw : w.exponent with
  | none =>
    simp only [Written.exponentChars, hw, List.map_nil, List.nil_append]
    exact fun c hc => ⟨(hrest c hc).1, (hrest c hc).2.1⟩
  | some e =>
    simp only [Written.exponentChars, hw, List.map_cons, List.cons_append, List.head?_cons]
    rintro _ ⟨⟩
    decide

/-- What follows the integer part does not go on with it. -/
theorem isDigit_head_fractionChars (hrest : NumeralEnds rest) :
    ∀ c ∈ (textOf w.fractionChars ++ (textOf w.exponentChars ++ rest)).head?,
      c.isDigit = false := by
  by_cases hw : w.fraction = []
  · simp only [Written.fractionChars, hw, List.isEmpty_nil, if_true, List.map_nil, List.nil_append]
    exact fun c hc => (isDigit_head_exponentChars hrest c hc).1
  · have hempty : w.fraction.isEmpty = false := by simpa using hw
    simp only [Written.fractionChars, hempty, Bool.false_eq_true, if_false, List.map_cons,
      List.cons_append, List.head?_cons]
    rintro _ ⟨⟩
    decide

theorem exists_whole_eq (h : w.WellFormed) : ∃ c more, w.whole = c :: more ∧ c.isDigit = true := by
  rcases h.whole with hwhole | ⟨c, more, hwhole, -, hdigits⟩
  · exact ⟨'0', [], hwhole, by decide⟩
  · exact ⟨c, more, hwhole, hdigits c (by rw [hwhole]; exact List.mem_cons_self)⟩

theorem textOf_chars (w : Written) : textOf w.chars =
    (if w.negative then [.char '-'] else []) ++ (textOf w.whole ++
      (textOf w.fractionChars ++ textOf w.exponentChars)) := by
  cases hw : w.negative <;> simp [Written.chars, hw]

theorem splitMinus_written (h : w.WellFormed) (rest : Text) :
    Number.splitMinus (textOf w.chars ++ rest) = (w.negative,
      textOf w.whole ++ (textOf w.fractionChars ++ (textOf w.exponentChars ++ rest))) := by
  obtain ⟨c, more, hc, hdigit⟩ := exists_whole_eq h
  rw [textOf_chars]
  cases w.negative with
  | true => simp [Number.splitMinus]
  | false =>
    have hminus : c ≠ '-' := by
      rintro rfl
      exact absurd hdigit (by decide)
    simp [Number.splitMinus, hc, hminus]

theorem readNumeral_eq (t : Text) : readNumeral t =
    (readWhole (Number.splitMinus t).2).map fun x =>
      (⟨(Number.splitMinus t).1, x.1, (readFraction x.2).1, (readExponent (readFraction x.2).2).1⟩,
        (readExponent (readFraction x.2).2).2) := by
  unfold readNumeral
  split
  rename_i negative unsigned hsign
  have hminus : Number.splitMinus t = (negative, unsigned) := hsign
  rw [hminus]

/-- A numeral is read as its parts, up to where it ends. -/
theorem readNumeral_written (h : w.WellFormed) (hrest : NumeralEnds rest) :
    readNumeral (textOf w.chars ++ rest) = some (numeralOf w, rest) := by
  rw [readNumeral_eq, splitMinus_written h,
    readWhole_of_isWhole h.whole (isDigit_head_fractionChars (w := w) hrest), Option.map_some,
    readFraction_written h (isDigit_head_exponentChars (w := w) hrest),
    readExponent_written h hrest]
  rfl

/-- A numeral starts with none of the constants. -/
theorem readConstant?_written (h : w.WellFormed) :
    readConstant? (textOf w.chars ++ rest) = none := by
  obtain ⟨c, more, hc, hdigit⟩ := exists_whole_eq h
  have hne : ∀ d : Char, d.isDigit = false → d ≠ c := by
    rintro d hd rfl
    rw [hdigit] at hd
    cases hd
  rw [textOf_chars, hc]
  unfold readConstant?
  rw [List.findSome?_eq_none_iff]
  cases w.negative <;>
    simp [constants, Text.ofString, hne]

end

theorem readScalar_written {w : Written} {rest : Text} (h : w.WellFormed)
    (hrest : NumeralEnds rest) : readScalar (textOf w.chars ++ rest) =
      (numeralOf w).value.map fun value => (value, rest) := by
  unfold readScalar
  rw [readConstant?_written h, readNumeral_written h hrest]

/-! ### Integers -/

/-- An integer with no more digits than a numeral may have. -/
def IsShort (n : Int) : Prop := n.natAbs < 10 ^ Number.digitLimit

theorem digitsValue_decimalDigits (n : Nat) :
    Number.digitsValue (textOf (Number.decimalDigits n)) = n := by
  unfold Number.digitsValue textOf
  rw [List.foldl_map]
  exact Nat.ofDigitChars_ten_toDigits

theorem signed_natAbs (n : Int) : Number.signed (n < 0) n.natAbs = n := by
  unfold Number.signed
  split_ifs with h
  · have hneg := of_decide_eq_true h
    omega
  · have hpos := of_decide_eq_false (Bool.eq_false_of_not_eq_true h)
    omega

theorem value_numeralOf_writtenInt {n : Int} (hn : IsShort n) :
    (numeralOf (Number.writtenInt n)).value = .ok (.int n) := by
  have hlength : (Number.decimalDigits n.natAbs).length ≤ Number.digitLimit :=
    (Nat.length_toDigits_le_iff (by decide) (by decide)).2 hn
  have hlimit : ¬ Number.digitLimit < (textOf (Number.decimalDigits n.natAbs)).length := by
    rw [List.length_map]
    exact Nat.not_lt.2 hlength
  change (if Number.digitLimit < (textOf (Number.decimalDigits n.natAbs)).length then _
    else Except.ok (Value.int (Number.signed (n < 0)
      (Number.digitsValue (textOf (Number.decimalDigits n.natAbs)))))) = _
  rw [if_neg hlimit, digitsValue_decimalDigits, signed_natAbs]

/-- A printed integer is read back. -/
theorem readScalar_int {n : Int} (hn : IsShort n) {rest : Text} (hrest : NumeralEnds rest) :
    readScalar (Text.ofString (toString n) ++ rest) = .ok (.int n, rest) := by
  rw [Number.toString_int_eq, Text.ofString, String.toList_ofList,
    readScalar_written (Number.writtenInt_wellFormed n) hrest, value_numeralOf_writtenInt hn]
  rfl

/-! ### Doubles -/

/-- What a printed double is read back as. -/
def rereadDouble (x : Number.Binary64) : Value :=
  match readScalar (printDouble x) with
  | .ok (value, _) => value
  | .error _ => .null

theorem exists_value_numeralOf {w : Written} (h : w.fraction ≠ [] ∨ w.exponent ≠ none) :
    ∃ x, (numeralOf w).value = .ok (.float x) := by
  have hdouble : ((numeralOf w).fraction.isEmpty && (numeralOf w).exponent.isNone) = false := by
    rw [Bool.and_eq_false_iff]
    rcases h with h | h
    · exact Or.inl (by simpa [numeralOf, textOf] using h)
    · exact Or.inr (by simpa [numeralOf, exponentOf, Option.isNone_eq_false_iff,
        Option.isSome_iff_ne_none] using h)
  unfold Numeral.value
  rw [hdouble]
  exact ⟨_, rfl⟩

/-- A printed double is read back whatever follows it. -/
theorem readScalar_double (x : Number.Binary64) {rest : Text} (hrest : NumeralEnds rest) :
    readScalar (Text.ofString (printDouble x) ++ rest) = .ok (rereadDouble x, rest) := by
  unfold rereadDouble printDouble
  split_ifs with hfinite
  · obtain ⟨w, hw, hdouble, hwrite⟩ := Number.exists_written .compact hfinite
    obtain ⟨y, hy⟩ := exists_value_numeralOf hdouble
    have hnil : NumeralEnds [] := fun _ h => nomatch h
    have halone := readScalar_written hw hnil
    rw [hy, List.append_nil] at halone
    rw [hwrite, Text.ofString, String.toList_ofList, readScalar_written hw hrest, hy, halone]
    rfl
  · rfl

end ServiceContract.Json
