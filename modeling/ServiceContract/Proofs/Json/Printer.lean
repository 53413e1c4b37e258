import Mathlib.Data.List.Basic
import Mathlib.Tactic.SplitIfs
import ServiceContract.Proofs.Json.Numeral

/-!
# Printed values

How the print of a value is laid out: what it starts with (`exists_printAt_eq`), where a reader
that skips space comes to, and how the parts of an array or object follow each other.  Apart from
line feeds there are no control characters in it, and what is no printable ASCII character comes
from a string of the value (`inPrint_printAt`).
-/

namespace ServiceContract.Json

/-! ### Where values start -/

/-- A constant or a number may start with the character. -/
def StartsScalar (c : Char) : Prop := c = '-' ∨ c.isAlphanum = true

/-- A value may start with the character. -/
def StartsValue (c : Char) : Prop := StartsScalar c ∨ c = '"' ∨ c = '[' ∨ c = '\x7b'

theorem startsScalar_of_isDigit {c : Char} (h : c.isDigit = true) : StartsScalar c := by
  simp [StartsScalar, Char.isAlphanum, h]

theorem ne_of_startsScalar {c d : Char} (h : StartsScalar c)
    (hd : (d == '-' || d.isAlphanum) = false) : c ≠ d := by
  rintro rfl
  rcases h with rfl | h
  · cases hd
  · simp [h] at hd

theorem ne_of_startsValue {c d : Char} (h : StartsValue c)
    (hd : (d == '-' || d.isAlphanum) = false) (hquote : d ≠ '"') (hbracket : d ≠ '[')
    (hbrace : d ≠ '\x7b') : c ≠ d := by
  rcases h with h | rfl | rfl | rfl
  · exact ne_of_startsScalar h hd
  · exact hquote.symm
  · exact hbracket.symm
  · exact hbrace.symm

theorem isSpace_of_startsValue {c : Char} (h : StartsValue c) : isSpace c = false := by
  simp [isSpace, ne_of_startsValue h]

theorem exists_chars_eq {w : Number.Written} (h : w.WellFormed) :
    ∃ c more, textOf w.chars = .char c :: more ∧ StartsScalar c := by
  obtain ⟨c, more, hc, hdigit⟩ := exists_whole_eq h
  rw [textOf_chars, hc]
  cases w.negative with
  | true => exact ⟨'-', _, rfl, Or.inl rfl⟩
  | false => exact ⟨c, _, rfl, startsScalar_of_isDigit hdigit⟩

theorem exists_toString_eq (n : Int) :
    ∃ c more, Text.ofString (toString n) = .char c :: more ∧ StartsScalar c := by
  rw [Number.toString_int_eq, Text.ofString, String.toList_ofList]
  exact exists_chars_eq (Number.writtenInt_wellFormed n)

theorem exists_printDouble_eq (x : Number.Binary64) :
    ∃ c more, Text.ofString (printDouble x) = .char c :: more ∧ StartsScalar c := by
  unfold printDouble
  split_ifs with hfinite
  · obtain ⟨w, hw, -, hwrite⟩ := Number.exists_written .compact hfinite
    rw [hwrite, Text.ofString, String.toList_ofList]
    exact exists_chars_eq hw
  · exact ⟨'n', _, rfl, Or.inr rfl⟩

theorem printString_append (s rest : Text) : printString s ++ rest =
    .char '"' :: (s.flatMap printCode ++ .char '"' :: rest) := by
  simp [printString, Text.ofString]

theorem exists_printParts_eq (opening closing : String) (level : Nat) (parts : List Text) :
    ∃ more, printParts opening closing level parts = Text.ofString opening ++ more := by
  unfold printParts
  split_ifs
  · exact ⟨_, rfl⟩
  · exact ⟨_, by rw [List.append_assoc, List.append_assoc, List.append_assoc]⟩

theorem exists_printAt_eq (v : Value) (level : Nat) :
    ∃ c more, v.printAt level = .char c :: more ∧ StartsValue c := by
  have hscalar : ∀ {printed : Text}, (∃ c more, printed = .char c :: more ∧ StartsScalar c) →
      ∃ c more, printed = .char c :: more ∧ StartsValue c := by
    rintro printed ⟨c, more, rfl, hc⟩
    exact ⟨c, more, rfl, Or.inl hc⟩
  cases v with
  | null => exact hscalar ⟨'n', _, rfl, Or.inr rfl⟩
  | bool b => cases b <;> exact hscalar ⟨_, _, rfl, Or.inr rfl⟩
  | int n => exact hscalar (exists_toString_eq n)
  | float x => exact hscalar (exists_printDouble_eq x)
  | string s => exact ⟨'"', _, rfl, Or.inr (Or.inl rfl)⟩
  | array items =>
    obtain ⟨more, h⟩ := exists_printParts_eq "[" "]" level (printItems (level + 1) items)
    exact ⟨'[', more, h, Or.inr (Or.inr (Or.inl rfl))⟩
  | object members =>
    obtain ⟨more, h⟩ := exists_printParts_eq "\x7b" "\x7d" level (printMembers (level + 1) members)
    exact ⟨'\x7b', more, h, Or.inr (Or.inr (Or.inr rfl))⟩

/-! ### Space -/

theorem skipSpace_cons {c : CodePoint} (h : isSpace c = false) (rest : Text) :
    skipSpace (c :: rest) = c :: rest := by
  rw [skipSpace, List.dropWhile_cons, if_neg (by simp [h])]

theorem skipSpace_lineStart (level : Nat) (rest : Text) :
    skipSpace (lineStart level ++ rest) = skipSpace rest := by
  refine List.dropWhile_append_of_pos fun c hc => ?_
  rcases List.mem_cons.1 hc with rfl | hc
  · rfl
  · rw [List.eq_of_mem_replicate hc]
    rfl

theorem skipSpace_printAt (v : Value) (level : Nat) (rest : Text) :
    skipSpace (v.printAt level ++ rest) = v.printAt level ++ rest := by
  obtain ⟨c, more, h, hc⟩ := exists_printAt_eq v level
  rw [h]
  exact skipSpace_cons (isSpace_of_startsValue hc) (more ++ rest)

theorem numeralEnds_lineStart (level : Nat) (rest : Text) :
    NumeralEnds (lineStart level ++ rest) := by
  rintro _ ⟨⟩
  decide

theorem numeralEnds_comma (rest : Text) : NumeralEnds (.char ',' :: rest) := by
  rintro _ ⟨⟩
  decide

/-! ### Printed parts -/

/-- The parts of an array or object on lines of their own. -/
def joined (level : Nat) (parts : List Text) : Text :=
  Text.join (Text.ofString "," ++ lineStart level) parts

theorem joined_singleton (level : Nat) (part : Text) : joined level [part] = part := by
  unfold joined Text.join
  rw [List.intercalate_singleton]

theorem joined_cons_cons (level : Nat) (part part' : Text) (parts : List Text) :
    joined level (part :: part' :: parts) =
      part ++ .char ',' :: (lineStart level ++ joined level (part' :: parts)) := by
  unfold joined Text.join
  rw [List.intercalate_cons_cons, List.append_assoc, List.append_assoc]
  rfl

theorem exists_joined_eq (level : Nat) (part : Text) (parts : List Text) :
    ∃ more, joined level (part :: parts) = part ++ more := by
  cases parts with
  | nil => exact ⟨[], by rw [joined_singleton, List.append_nil]⟩
  | cons part' parts => exact ⟨_, joined_cons_cons level part part' parts⟩

theorem printParts_cons (opening closing : String) (level : Nat) (part : Text)
    (parts : List Text) : printParts opening closing level (part :: parts) =
      Text.ofString opening ++ (lineStart (level + 1) ++ (joined (level + 1) (part :: parts) ++
        (lineStart level ++ Text.ofString closing))) := by
  simp only [printParts, List.isEmpty_cons, Bool.false_eq_true, if_false, joined,
    List.append_assoc]

theorem exists_joined_items_eq (level : Nat) (v : Value) (items : List Value) :
    ∃ c more, joined level (printItems level (v :: items)) = .char c :: more ∧
      StartsValue c := by
  obtain ⟨c, more, h, hc⟩ := exists_printAt_eq v level
  obtain ⟨more', hjoined⟩ := exists_joined_eq level (v.printAt level) (printItems level items)
  exact ⟨c, more ++ more', by rw [printItems, hjoined, h, List.cons_append], hc⟩

theorem exists_joined_members_eq (level : Nat) (member : Text × Value) (members : Members) :
    ∃ more, joined level (printMembers level (member :: members)) = .char '"' :: more := by
  obtain ⟨key, v⟩ := member
  obtain ⟨more, h⟩ := exists_joined_eq level
    (printString key ++ Text.ofString ": " ++ v.printAt level) (printMembers level members)
  rw [printMembers, h, List.append_assoc, List.append_assoc, printString_append]
  exact ⟨_, rfl⟩

theorem skipSpace_joined_items (level : Nat) (v : Value) (items : List Value) (rest : Text) :
    skipSpace (joined level (printItems level (v :: items)) ++ rest) =
      joined level (printItems level (v :: items)) ++ rest := by
  obtain ⟨c, more, h, hc⟩ := exists_joined_items_eq level v items
  rw [h]
  exact skipSpace_cons (isSpace_of_startsValue hc) (more ++ rest)

theorem skipSpace_joined_members (level : Nat) (member : Text × Value) (members : Members)
    (rest : Text) : skipSpace (joined level (printMembers level (member :: members)) ++ rest) =
      joined level (printMembers level (member :: members)) ++ rest := by
  obtain ⟨more, h⟩ := exists_joined_members_eq level member members
  rw [h]
  exact skipSpace_cons (by decide) (more ++ rest)

/-! ### Code points -/

/-- A code point that may stand in a print with the given strings. -/
def InPrint (strings : List Text) (c : CodePoint) : Prop :=
  c = '\n' ∨ 0x20 ≤ c.toNat ∧ (c.toNat < 0x7F ∨ ∃ s ∈ strings, c ∈ s)

theorem InPrint.mono {strings strings' : List Text} {c : CodePoint} (h : InPrint strings c)
    (hsub : strings ⊆ strings') : InPrint strings' c := by
  rcases h with h | ⟨hlow, h | ⟨s, hs, hc⟩⟩
  · exact Or.inl h
  · exact Or.inr ⟨hlow, Or.inl h⟩
  · exact Or.inr ⟨hlow, Or.inr ⟨s, hsub hs, hc⟩⟩

/-- A printable ASCII character. -/
def IsAscii (c : CodePoint) : Prop := 0x20 ≤ c.toNat ∧ c.toNat < 0x7F

instance (c : CodePoint) : Decidable (IsAscii c) := inferInstanceAs (Decidable (_ ∧ _))

theorem IsAscii.inPrint {c : CodePoint} (h : IsAscii c) (strings : List Text) :
    InPrint strings c :=
  Or.inr ⟨h.1, Or.inl h.2⟩

theorem isAscii_of_isDigit {c : CodePoint} (h : c.isDigit = true) : IsAscii c := by
  obtain ⟨hlow, hhigh⟩ := CodePoint.toNat_of_isDigit h
  exact ⟨by omega, by omega⟩

theorem isAscii_chars {w : Number.Written} (h : w.WellFormed) :
    ∀ c ∈ textOf w.chars, IsAscii c := by
  have hdigits : ∀ {digits : List Char}, (∀ c ∈ digits, c.isDigit = true) →
      ∀ c ∈ textOf digits, IsAscii c :=
    fun hd => List.forall_mem_map.2 fun c hc => isAscii_of_isDigit (hd c hc)
  rw [textOf_chars]
  simp only [List.forall_mem_append]
  refine ⟨?_, hdigits h.whole.isDigit, ?_, ?_⟩
  · cases w.negative <;> decide
  · unfold Number.Written.fractionChars
    split_ifs
    · exact List.forall_mem_nil _
    · exact List.forall_mem_cons.2 ⟨by decide, hdigits h.fraction⟩
  · unfold Number.Written.exponentChars
    split
    · exact List.forall_mem_nil _
    · rename_i negative digits hexponent
      have hsign : IsAscii (.char (if negative then '-' else '+')) := by
        cases negative <;> decide
      exact List.forall_mem_cons.2 ⟨by decide, List.forall_mem_cons.2 ⟨hsign,
        hdigits (h.exponent _ (hexponent ▸ Option.mem_some_self _)).2⟩⟩

theorem isAscii_toString (n : Int) : ∀ c ∈ Text.ofString (toString n), IsAscii c := by
  rw [Number.toString_int_eq, Text.ofString, String.toList_ofList]
  exact isAscii_chars (Number.writtenInt_wellFormed n)

theorem isAscii_printDouble (x : Number.Binary64) :
    ∀ c ∈ Text.ofString (printDouble x), IsAscii c := by
  unfold printDouble
  split_ifs with hfinite
  · obtain ⟨w, hw, -, hwrite⟩ := Number.exists_written .compact hfinite
    rw [hwrite, Text.ofString, String.toList_ofList]
    exact isAscii_chars hw
  · decide

theorem inPrint_lineStart {level : Nat} {c : CodePoint} (h : c ∈ lineStart level)
    (strings : List Text) : InPrint strings c := by
  rcases List.mem_cons.1 h with rfl | h
  · exact Or.inl rfl
  · rw [List.eq_of_mem_replicate h]
    exact IsAscii.inPrint (by decide) strings

section

variable {strings : List Text}

theorem inPrint_joined {level : Nat} {parts : List Text}
    (h : ∀ part ∈ parts, ∀ c ∈ part, InPrint strings c) :
    ∀ c ∈ joined level parts, InPrint strings c := by
  induction parts with
  | nil => simp [joined, Text.join]
  | cons part parts ih =>
    obtain ⟨hpart, hparts⟩ := List.forall_mem_cons.1 h
    cases parts with
    | nil =>
      rw [joined_singleton]
      exact hpart
    | cons part' parts =>
      rw [joined_cons_cons]
      intro c hc
      simp only [List.mem_append, List.mem_cons] at hc
      rcases hc with hc | rfl | hc | hc
      · exact hpart c hc
      · exact IsAscii.inPrint (by decide) strings
      · exact inPrint_lineStart hc strings
      · exact ih hparts c hc

theorem inPrint_printParts {opening closing : String} {level : Nat} {parts : List Text}
    (hopening : ∀ c ∈ Text.ofString opening, IsAscii c)
    (hclosing : ∀ c ∈ Text.ofString closing, IsAscii c)
    (h : ∀ part ∈ parts, ∀ c ∈ part, InPrint strings c) :
    ∀ c ∈ printParts opening closing level parts, InPrint strings c := by
  intro c hc
  cases parts with
  | nil =>
    rcases List.mem_append.1 hc with hc | hc
    · exact (hopening c hc).inPrint strings
    · exact (hclosing c hc).inPrint strings
  | cons part parts =>
    rw [printParts_cons] at hc
    simp only [List.mem_append] at hc
    rcases hc with hc | hc | hc | hc | hc
    · exact (hopening c hc).inPrint strings
    · exact inPrint_lineStart hc strings
    · exact inPrint_joined h c hc
    · exact inPrint_lineStart hc strings
    · exact (hclosing c hc).inPrint strings

/-- What a code point of a string is printed as. -/
theorem inPrint_printCode {c : CodePoint} (h : ∃ s ∈ strings, c ∈ s) :
    ∀ d ∈ printCode c, InPrint strings d := by
  have hascii : ∀ {t : Text}, (∀ d ∈ t, IsAscii d) → ∀ d ∈ t, InPrint strings d :=
    fun ht d hd => (ht d hd).inPrint strings
  unfold printCode
  split
  iterate 7 exact hascii (by decide)
  split_ifs with hcontrol
  · have hescape : ∀ n < 0x20, ∀ d ∈ Text.ofString "\\u" ++ Text.ofString (Text.hexDigits 4 n),
        IsAscii d := by decide
    exact hascii (hescape _ hcontrol)
  · exact List.forall_mem_singleton.2 (Or.inr ⟨by omega, Or.inr h⟩)

theorem inPrint_printString {s : Text} (hs : s ∈ strings) :
    ∀ c ∈ printString s, InPrint strings c := by
  have hquote : ∀ c ∈ Text.ofString "\"", InPrint strings c :=
    List.forall_mem_singleton.2 (IsAscii.inPrint (by decide) strings)
  refine List.forall_mem_append.2 ⟨List.forall_mem_append.2 ⟨hquote, fun d hd => ?_⟩, hquote⟩
  obtain ⟨c, hc, hd⟩ := List.mem_flatMap.1 hd
  exact inPrint_printCode ⟨s, hs, hc⟩ d hd

end

mutual

/-- Every code point of a print is a line feed, a printable ASCII character or one of a string of
the value, and none but the line feeds is a control character. -/
theorem inPrint_printAt (level : Nat) : ∀ v : Value, ∀ c ∈ v.printAt level, InPrint v.strings c
  | .null => by
    have hascii : ∀ c ∈ Text.ofString "null", IsAscii c := by decide
    exact fun c hc => (hascii c hc).inPrint _
  | .bool b => by
    have hascii : ∀ c ∈ (Value.bool b).printAt level, IsAscii c := by
      cases b
      · exact (by decide : ∀ c ∈ Text.ofString "false", IsAscii c)
      · exact (by decide : ∀ c ∈ Text.ofString "true", IsAscii c)
    exact fun c hc => (hascii c hc).inPrint _
  | .int n => fun c hc => (isAscii_toString n c hc).inPrint _
  | .float x => fun c hc => (isAscii_printDouble x c hc).inPrint _
  | .string s => inPrint_printString List.mem_cons_self
  | .array items =>
    inPrint_printParts (by decide) (by decide) (inPrint_printItems (level + 1) items)
  | .object members =>
    inPrint_printParts (by decide) (by decide) (inPrint_printMembers (level + 1) members)

theorem inPrint_printItems (level : Nat) : ∀ items : List Value,
    ∀ part ∈ printItems level items, ∀ c ∈ part, InPrint (stringsOfItems items) c
  | [] => List.forall_mem_nil _
  | v :: items => by
    have hv := inPrint_printAt level v
    have hitems := inPrint_printItems level items
    refine List.forall_mem_cons.2 ⟨fun c hc => ?_, fun part hpart c hc => ?_⟩
    · exact (hv c hc).mono (List.subset_append_left _ _)
    · exact (hitems part hpart c hc).mono (List.subset_append_right _ _)

theorem inPrint_printMembers (level : Nat) : ∀ members : List (Text × Value),
    ∀ part ∈ printMembers level members, ∀ c ∈ part, InPrint (stringsOfMembers members) c
  | [] => List.forall_mem_nil _
  | (key, v) :: members => by
    have hv := inPrint_printAt level v
    have hmembers := inPrint_printMembers level members
    have hcolon : ∀ c ∈ Text.ofString ": ", IsAscii c := by decide
    refine List.forall_mem_cons.2 ⟨?_, fun part hpart c hc => ?_⟩
    · refine List.forall_mem_append.2 ⟨List.forall_mem_append.2 ⟨?_, fun c hc => ?_⟩,
        fun c hc => ?_⟩
      · exact inPrint_printString List.mem_cons_self
      · exact (hcolon c hc).inPrint _
      · exact (hv c hc).mono (List.subset_append_of_subset_right [key]
          (List.subset_append_left _ _))
    · exact (hmembers part hpart c hc).mono (List.subset_append_right _ _)

end

end ServiceContract.Json
