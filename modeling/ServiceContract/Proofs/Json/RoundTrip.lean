import ServiceContract.Proofs.Json.Members
import ServiceContract.Proofs.Json.Printer

/-!
# Reading printed values

A value is read back from its print if it is readable: its integers are short, the keys of its
objects are distinct, and it is no deeper than a reader goes.  The steps of the readers are taken
apart first, one item or member at a time; from them follows that every reader comes back with the
printed value and stops where its print ends (`readsBack_of_readable`), and so that whole texts are
read back (`read_print`).
-/

namespace ServiceContract.Json

/-! ### Strings -/

/-- A code point that needs no escape. -/
theorem readString_cons {c : CodePoint} (hquote : c ≠ '"') (hbackslash : c ≠ '\\')
    (hcontrol : ¬ c.toNat < 0x20) (pending : Option Nat) (rest : Text) :
    readString pending (c :: rest) =
      (readString none rest).map fun x => (loneHalf pending ++ c :: x.1, x.2) := by
  rw [readString.eq_def pending (c :: rest)]
  split <;> simp_all

theorem hexValue?_digitChar : ∀ k < 16, (CodePoint.char (Nat.digitChar k)).hexValue? = some k := by
  decide

/-- Four hexadecimal digits hold a number below `0x10000`. -/
theorem hexNumber?_hexDigits {n : Nat} (hn : n < 0x10000) : ∃ a b c d,
    Text.ofString (Text.hexDigits 4 n) = [a, b, c, d] ∧
      Text.hexNumber? [a, b, c, d] = some n := by
  refine ⟨_, _, _, _, by rw [Text.ofString, Text.hexDigits, String.toList_ofList]; rfl, ?_⟩
  have hdigit : ∀ i, (CodePoint.char (Nat.digitChar (n / Nat.pow 16 i % 16))).hexValue? =
      some (n / Nat.pow 16 i % 16) := fun i => hexValue?_digitChar _ (Nat.mod_lt _ (by decide))
  unfold Text.hexNumber?
  simp only [List.foldlM_cons, List.foldlM_nil, hdigit, Option.map_some]
  show some (16 * (16 * (16 * (16 * 0 + n / 0x1000 % 16) + n / 0x100 % 16) + n / 0x10 % 16) +
    n / 1 % 16) = some n
  congr 1
  omega

/-- The escape of a code unit. -/
theorem readString_unit {n : Nat} (hn : n < 0x10000) (pending : Option Nat) {rest : Text}
    (hrest : rest ≠ []) :
    readString pending (Text.ofString "\\u" ++ Text.ofString (Text.hexDigits 4 n) ++ rest) =
      (readString (acceptUnit pending n).2 rest).map fun x =>
        ((acceptUnit pending n).1 ++ x.1, x.2) := by
  obtain ⟨a, b, c, d, htext, hnumber⟩ := hexNumber?_hexDigits hn
  have hempty : rest.isEmpty = false := by simpa using hrest
  rw [htext]
  show readString pending (.char '\\' :: .char 'u' :: a :: b :: c :: d :: rest) = _
  rw [readString, hnumber]
  simp only [hempty]
  rfl

/-- The escape of a control character that has no short one. -/
theorem readString_escape {c : Char} (hcontrol : c.toNat < 0x20) {rest : Text}
    (hrest : rest ≠ []) :
    readString none (Text.ofString "\\u" ++ Text.ofString (Text.hexDigits 4 c.toNat) ++ rest) =
      (readString none rest).map fun x => (.char c :: x.1, x.2) := by
  have hhigh : isHighSurrogate c.toNat = false := by
    simp only [isHighSurrogate, Bool.and_eq_false_iff, decide_eq_false_iff_not]
    omega
  have hc : CodePoint.ofNat c.toNat = .char c := by
    rw [CodePoint.ofNat, dif_neg (by omega), Char.ofNat_toNat]
  rw [readString_unit (by omega) none hrest, acceptUnit, hhigh, hc]
  rfl

/-- A code point of a string is read back as it was printed. -/
theorem readString_printCode (c : CodePoint) {rest : Text} (hrest : rest ≠ []) :
    readString none (printCode c ++ rest) =
      (readString none rest).map fun x => (c :: x.1, x.2) := by
  unfold printCode
  split
  iterate 7 rfl
  rename_i hquote hbackslash _ _ _ _ _
  split_ifs with hcontrol
  · cases c with
    | char c => exact readString_escape hcontrol hrest
    | surrogate index =>
      have hlow : 0xD800 ≤ (CodePoint.surrogate index).toNat := Nat.le_add_right _ _
      omega
  · exact readString_cons hquote hbackslash hcontrol none rest

theorem readString_flatMap_printCode (s rest : Text) :
    readString none (s.flatMap printCode ++ .char '"' :: rest) = .ok (s, rest) := by
  induction s with
  | nil => rfl
  | cons c s ih =>
    rw [List.flatMap_cons, List.append_assoc, readString_printCode c (by simp), ih]
    rfl

/-- A printed string is read back. -/
theorem readText_printString (s rest : Text) :
    readText (s.flatMap printCode ++ .char '"' :: rest) = .ok (s, rest) := by
  rw [readText, readString_flatMap_printCode]

/-! ### Readable values -/

mutual

/-- What a printed value is read back as: doubles come back as `rereadDouble` says. -/
def Value.reread : Value → Value
  | .null => .null
  | .bool b => .bool b
  | .int n => .int n
  | .float x => rereadDouble x
  | .string s => .string s
  | .array items => .array (rereadItems items)
  | .object members => .object (rereadMembers members)

/-- What the items of an array are read back as. -/
def rereadItems : List Value → List Value
  | [] => []
  | v :: rest => v.reread :: rereadItems rest

/-- What the members of an object are read back as. -/
def rereadMembers : List (Text × Value) → List (Text × Value)
  | [] => []
  | (key, v) :: rest => (key, v.reread) :: rereadMembers rest

end

/-- A value that a reader takes at the given depth: its integers are short, and no object has a key
twice. -/
inductive Value.Readable : (depth : Nat) → Value → Prop
  | null (depth : Nat) : Readable depth .null
  | bool (depth : Nat) (b : Bool) : Readable depth (.bool b)
  | int (depth : Nat) {n : Int} (short : IsShort n) : Readable depth (.int n)
  | float (depth : Nat) (x : Number.Binary64) : Readable depth (.float x)
  | string (depth : Nat) (s : Text) : Readable depth (.string s)
  | array {depth : Nat} {items : List Value} (each : ∀ v ∈ items, Readable depth v) :
    Readable (depth + 1) (.array items)
  | object {depth : Nat} {members : Members} (distinct : members.keys.Nodup)
    (each : ∀ m ∈ members, Readable depth m.2) : Readable (depth + 1) (.object members)

/-- At every level the print of the value is read back, whatever follows it. -/
def ReadsBack (depth : Nat) (v : Value) : Prop :=
  ∀ level fuel rest, NumeralEnds rest → (v.printAt level).length < fuel →
    readValue fuel depth (v.printAt level ++ rest) = .ok (v.reread, rest)

/-! ### Scalars -/

theorem readValue_scalar {c : Char} (h : StartsScalar c) (fuel depth : Nat) (rest : Text) :
    readValue (fuel + 1) depth (.char c :: rest) = readScalar (.char c :: rest) := by
  have hquote : c ≠ '"' := ne_of_startsScalar h (by decide)
  have hbrace : c ≠ '\x7b' := ne_of_startsScalar h (by decide)
  have hbracket : c ≠ '[' := ne_of_startsScalar h (by decide)
  rw [readValue] <;> simp [hquote, hbrace, hbracket]

/-- A value that is printed as a scalar is read back if its scalar is. -/
theorem readsBack_of_readScalar {depth : Nat} {v : Value} {printed : Text}
    (hprint : ∀ level, v.printAt level = printed)
    (hhead : ∃ c more, printed = .char c :: more ∧ StartsScalar c)
    (h : ∀ rest, NumeralEnds rest → readScalar (printed ++ rest) = .ok (v.reread, rest)) :
    ReadsBack depth v := by
  intro level fuel rest hrest hfuel
  obtain ⟨c, more, rfl, hc⟩ := hhead
  rw [hprint] at hfuel ⊢
  obtain ⟨fuel, rfl⟩ := Nat.exists_eq_succ_of_ne_zero (Nat.ne_zero_of_lt hfuel)
  rw [← h rest hrest]
  exact readValue_scalar hc fuel depth (more ++ rest)

/-! ### Single items and members -/

section

variable {fuel depth : Nat} {v : Value} {t rest : Text}

/-- The last item of an array. -/
theorem readItems_last (h : readValue fuel depth t = .ok (v, rest)) {left : Text}
    (hrest : skipSpace rest = .char ']' :: left) :
    readItems (fuel + 1) depth t = .ok ([v], left) := by
  rw [readItems, h]
  simp only [bind, Except.bind, hrest]

/-- An item that others follow. -/
theorem readItems_more (h : readValue fuel depth t = .ok (v, rest)) {left : Text}
    (hrest : skipSpace rest = .char ',' :: left) :
    readItems (fuel + 1) depth t =
      (readItems fuel depth (skipSpace left)).map fun x => (v :: x.1, x.2) := by
  rw [readItems, h]
  simp only [bind, Except.bind, hrest]

/-- A member whose key is read, and what comes of it by what follows. -/
theorem readMembers_of_readText (members : Members) {key keyText : Text}
    (hkey : readText keyText = .ok (key, Text.ofString ": " ++ t)) (hstart : skipSpace t = t) :
    readMembers (fuel + 1) depth members (.char '"' :: keyText) =
      readValue fuel depth t >>= fun x =>
        match skipSpace x.2 with
        | .char '\x7d' :: left => .ok (members.put key x.1, left)
        | .char ',' :: left => readMembers fuel depth (members.put key x.1) (skipSpace left)
        | left => .error (.malformed .expectedComma left.length) := by
  rewrite [readMembers, hkey]
  -- The colon and the space after it are skipped before the value is read.
  conv_rhs => rw [← hstart]
  rfl

/-- A printed member, and what comes of it by what follows. -/
theorem readMembers_printed (members : Members) (key : Text)
    (h : readValue fuel depth t = .ok (v, rest)) (hstart : skipSpace t = t) :
    readMembers (fuel + 1) depth members (printString key ++ (Text.ofString ": " ++ t)) =
      match skipSpace rest with
      | .char '\x7d' :: left => .ok (members.put key v, left)
      | .char ',' :: left => readMembers fuel depth (members.put key v) (skipSpace left)
      | left => .error (.malformed .expectedComma left.length) := by
  rw [printString_append, readMembers_of_readText members (readText_printString key _) hstart, h]
  rfl

/-- The last member of an object. -/
theorem readMembers_last (members : Members) (key : Text)
    (h : readValue fuel depth t = .ok (v, rest)) (hstart : skipSpace t = t) {left : Text}
    (hrest : skipSpace rest = .char '\x7d' :: left) :
    readMembers (fuel + 1) depth members (printString key ++ (Text.ofString ": " ++ t)) =
      .ok (members.put key v, left) := by
  rw [readMembers_printed members key h hstart, hrest]
  rfl

/-- A member that others follow. -/
theorem readMembers_more (members : Members) (key : Text)
    (h : readValue fuel depth t = .ok (v, rest)) (hstart : skipSpace t = t) {left : Text}
    (hrest : skipSpace rest = .char ',' :: left) :
    readMembers (fuel + 1) depth members (printString key ++ (Text.ofString ": " ++ t)) =
      readMembers fuel depth (members.put key v) (skipSpace left) := by
  rw [readMembers_printed members key h hstart, hrest]
  rfl

/-- The bracket that opens an array with items. -/
theorem readValue_bracket (h : ∀ left, skipSpace rest ≠ .char ']' :: left) :
    readValue (fuel + 1) (depth + 1) (.char '[' :: rest) =
      (readItems fuel depth (skipSpace rest)).map fun x => (.array x.1, x.2) := by
  rw [readValue]
  dsimp only
  split
  · rename_i left hleft
    exact absurd hleft (h left)
  · rfl

end

/-! ### Items and members together -/

/-- The items of an array are read back when each of them is. -/
theorem readItems_joined {depth : Nat} (level above fuel : Nat) {items : List Value}
    (h : ∀ v ∈ items, ReadsBack depth v) (hne : items ≠ []) (rest : Text)
    (hfuel : (joined level (printItems level items)).length + 1 < fuel) :
    readItems fuel depth (joined level (printItems level items) ++
      (lineStart above ++ .char ']' :: rest)) = .ok (rereadItems items, rest) := by
  induction items generalizing fuel with
  | nil => exact absurd rfl hne
  | cons v items ih =>
    obtain ⟨fuel, rfl⟩ := Nat.exists_eq_succ_of_ne_zero (Nat.ne_zero_of_lt hfuel)
    have hv := h v List.mem_cons_self level fuel
    cases items with
    | nil =>
      simp only [printItems, joined_singleton] at hfuel ⊢
      exact readItems_last (hv _ (numeralEnds_lineStart _ _) (by omega))
        (skipSpace_lineStart above _)
    | cons w items =>
      have hrest := ih fuel (fun u hu => h u (List.mem_cons_of_mem _ hu)) (List.cons_ne_nil _ _)
      rw [printItems, printItems, joined_cons_cons, ← printItems] at hfuel ⊢
      simp only [List.length_append, List.length_cons] at hfuel
      rw [List.append_assoc, List.cons_append, List.append_assoc,
        readItems_more (hv _ (numeralEnds_comma _) (by omega)) (skipSpace_cons (by decide) _),
        skipSpace_lineStart, skipSpace_joined_items, hrest (by omega)]
      rfl

theorem Members.put_eq_append {members : Members} {key : Text} (h : key ∉ members.keys)
    (v : Value) : members.put key v = members ++ [(key, v)] := by
  induction members with
  | nil => rfl
  | cons member rest ih =>
    obtain ⟨k, u⟩ := member
    have hne : k ≠ key := fun heq => h (heq ▸ List.mem_cons_self)
    have hrest : key ∉ Members.keys rest := fun hmem => h (List.mem_cons_of_mem k hmem)
    rw [Members.put, if_neg hne, ih hrest, List.cons_append]

/-- The members of an object are read back when each of their values is, after members with other
keys. -/
theorem readMembers_joined {depth : Nat} (level above fuel : Nat) (before : Members)
    {members : Members} (h : ∀ m ∈ members, ReadsBack depth m.2) (hne : members ≠ [])
    (hkeys : (before.keys ++ members.keys).Nodup) (rest : Text)
    (hfuel : (joined level (printMembers level members)).length < fuel) :
    readMembers fuel depth before (joined level (printMembers level members) ++
      (lineStart above ++ .char '\x7d' :: rest)) = .ok (before ++ rereadMembers members, rest) := by
  induction members generalizing before fuel with
  | nil => exact absurd rfl hne
  | cons member members ih =>
    obtain ⟨key, v⟩ := member
    obtain ⟨fuel, rfl⟩ := Nat.exists_eq_succ_of_ne_zero (Nat.ne_zero_of_lt hfuel)
    have hv : ReadsBack depth v := h (key, v) List.mem_cons_self
    have hkey : key ∉ before.keys := fun hmem =>
      List.disjoint_of_nodup_append hkeys hmem List.mem_cons_self
    have hput := Members.put_eq_append hkey v.reread
    have hcolon : (Text.ofString ": ").length = 2 := rfl
    cases members with
    | nil =>
      simp only [printMembers, joined_singleton, List.length_append] at hfuel ⊢
      rw [List.append_assoc, List.append_assoc,
        readMembers_last before key (hv level fuel _ (numeralEnds_lineStart _ _) (by omega))
          (skipSpace_printAt v level _) (skipSpace_lineStart above _), hput]
      rfl
    | cons member' members =>
      obtain ⟨key', v'⟩ := member'
      have hkeys' : (Members.keys (before ++ [(key, v.reread)]) ++
          Members.keys ((key', v') :: members)).Nodup := by
        simpa [Members.keys] using hkeys
      have hrest := ih fuel _ (fun m hm => h m (List.mem_cons_of_mem _ hm))
        (List.cons_ne_nil _ _) hkeys'
      rw [printMembers, printMembers, joined_cons_cons, ← printMembers] at hfuel ⊢
      simp only [List.length_append, List.length_cons] at hfuel
      simp only [List.append_assoc, List.cons_append]
      rw [readMembers_more before key (hv level fuel _ (numeralEnds_comma _) (by omega))
        (skipSpace_printAt v level _) (skipSpace_cons (by decide) _), hput, skipSpace_lineStart,
        skipSpace_joined_members, hrest (by omega), List.append_assoc,
        List.singleton_append]
      rfl

/-! ### Values -/

theorem readsBack_array {depth : Nat} {items : List Value}
    (h : ∀ v ∈ items, ReadsBack depth v) : ReadsBack (depth + 1) (.array items) := by
  intro level fuel rest hrest hfuel
  obtain ⟨fuel, rfl⟩ := Nat.exists_eq_succ_of_ne_zero (Nat.ne_zero_of_lt hfuel)
  cases items with
  | nil => rfl
  | cons v items =>
    have hprint : (Value.array (v :: items)).printAt level = .char '[' :: (lineStart (level + 1) ++
        (joined (level + 1) (printItems (level + 1) (v :: items)) ++
          (lineStart level ++ [.char ']']))) :=
      printParts_cons "[" "]" level (v.printAt (level + 1)) (printItems (level + 1) items)
    rw [hprint] at hfuel ⊢
    simp only [List.length_append, List.length_cons] at hfuel
    simp only [List.cons_append, List.append_assoc, List.nil_append]
    have hitems := readItems_joined (level + 1) level fuel h (List.cons_ne_nil _ _) rest (by omega)
    obtain ⟨c, more, heq, hc⟩ := exists_joined_items_eq (level + 1) v items
    have hbracket : c ≠ ']' := ne_of_startsValue hc (by decide) (by decide) (by decide) (by decide)
    have hskip := skipSpace_joined_items (level + 1) v items
      (lineStart level ++ .char ']' :: rest)
    rw [← skipSpace_lineStart (level + 1)] at hskip
    rw [readValue_bracket (by rw [hskip, heq]; simp [hbracket]), hskip, hitems]
    rfl

theorem readsBack_object {depth : Nat} {members : Members} (hkeys : members.keys.Nodup)
    (h : ∀ m ∈ members, ReadsBack depth m.2) : ReadsBack (depth + 1) (.object members) := by
  intro level fuel rest hrest hfuel
  obtain ⟨fuel, rfl⟩ := Nat.exists_eq_succ_of_ne_zero (Nat.ne_zero_of_lt hfuel)
  cases members with
  | nil => rfl
  | cons member members =>
    have hprint : (Value.object (member :: members)).printAt level = .char '\x7b' ::
        (lineStart (level + 1) ++ (joined (level + 1) (printMembers (level + 1)
          (member :: members)) ++ (lineStart level ++ [.char '\x7d']))) :=
      printParts_cons "\x7b" "\x7d" level _ (printMembers (level + 1) members)
    rw [hprint] at hfuel ⊢
    simp only [List.length_append, List.length_cons] at hfuel
    simp only [List.cons_append, List.append_assoc, List.nil_append]
    have hmembers := readMembers_joined (level + 1) level fuel [] h (List.cons_ne_nil _ _) hkeys
      rest (by omega)
    obtain ⟨more, heq⟩ := exists_joined_members_eq (level + 1) member members
    have hskip := skipSpace_joined_members (level + 1) member members
      (lineStart level ++ .char '\x7d' :: rest)
    rw [← skipSpace_lineStart (level + 1)] at hskip
    rw [readValue_brace (by rw [hskip, heq]; simp), hskip, hmembers]
    rfl

/-- A readable value is read back from its print. -/
theorem readsBack_of_readable {depth : Nat} {v : Value} (h : v.Readable depth) :
    ReadsBack depth v := by
  induction h with
  | null depth =>
    exact readsBack_of_readScalar (fun _ => rfl) ⟨'n', _, rfl, Or.inr rfl⟩ fun _ _ => rfl
  | bool depth b =>
    cases b with
    | true =>
      exact readsBack_of_readScalar (fun _ => rfl) ⟨'t', _, rfl, Or.inr rfl⟩ fun _ _ => rfl
    | false =>
      exact readsBack_of_readScalar (fun _ => rfl) ⟨'f', _, rfl, Or.inr rfl⟩ fun _ _ => rfl
  | int depth short =>
    exact readsBack_of_readScalar (fun _ => rfl) (exists_toString_eq _) fun _ hrest =>
      readScalar_int short hrest
  | float depth x =>
    exact readsBack_of_readScalar (fun _ => rfl) (exists_printDouble_eq x) fun _ hrest =>
      readScalar_double x hrest
  | string depth s =>
    intro level fuel rest hrest hfuel
    obtain ⟨fuel, rfl⟩ := Nat.exists_eq_succ_of_ne_zero (Nat.ne_zero_of_lt hfuel)
    change readValue (fuel + 1) depth (printString s ++ rest) = _
    rw [printString_append, readValue, readText_printString]
    rfl
  | array each ih => exact readsBack_array ih
  | object distinct each ih => exact readsBack_object distinct ih

/-! ### Whole texts -/

theorem numeralEnds_of_isSpace {rest : Text} (h : ∀ c ∈ rest, isSpace c = true) :
    NumeralEnds rest := by
  intro c hc
  have hspace := h c (List.mem_of_mem_head? hc)
  simp only [isSpace, Bool.or_eq_true, beq_iff_eq] at hspace
  rcases hspace with ((rfl | rfl) | rfl) | rfl <;> decide

theorem readAll_print {v : Value} (h : v.Readable depthLimit) {rest : Text}
    (hrest : ∀ c ∈ rest, isSpace c = true) : readAll (v.print ++ rest) = .ok v.reread := by
  have hlength : (v.printAt 0).length < 2 * (v.printAt 0 ++ rest).length + 2 := by
    rw [List.length_append]
    omega
  rw [Value.print, readAll_eq_ok_iff, skipSpace_printAt]
  exact ⟨rest, readsBack_of_readable h 0 _ rest (numeralEnds_of_isSpace hrest) hlength,
    List.dropWhile_eq_nil_iff.2 hrest⟩

/-- The print of a readable value, with space after it, is read as what it is read back as. -/
theorem read_print {v : Value} (h : v.Readable depthLimit) {rest : Text}
    (hrest : ∀ c ∈ rest, isSpace c = true) : read (v.print ++ rest) = .ok v.reread := by
  have hall := readAll_print h hrest
  obtain ⟨c, more, heq, hc⟩ := exists_printAt_eq v 0
  have hmark : c ≠ '\ufeff' := ne_of_startsValue hc (by decide) (by decide) (by decide) (by decide)
  rw [Value.print, heq] at hall ⊢
  unfold read
  split
  · rename_i htext
    exact absurd (CodePoint.char.inj (List.cons.inj htext).1) hmark
  · rw [hall]
    rfl

end ServiceContract.Json
