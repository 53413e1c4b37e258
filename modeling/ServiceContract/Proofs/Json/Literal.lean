import ServiceContract.Json.Literal
import ServiceContract.Proofs.Json.Quoted

/-!
# Literals read as JSON

A literal looks much like JSON, but strings are quoted in another way and constants are capitalized.
`Value.LiteralIsJson` says of which values the literal is JSON all the same.  The readers go over a
literal part by part: the literal of such a value is read as the value, and that of any other value
without doubles is not read at all (`readsLiteral_of_readable`), except that two halves of a
surrogate pair may come back as one character.  But then the value is not read from its literal,
because literals have no surrogates (`surrogateFree_literal`).  So the literals that are read back
are those of the values that they are JSON for (`read_literal_iff`).
-/

namespace ServiceContract.Json

/-! ### Layout -/

/-- There are no doubles in the value. -/
inductive Value.Floatless : Value → Prop
  | intro {v : Value} (scalar : ∀ x, v ≠ .float x) (items : ∀ w ∈ v.items, Floatless w)
      (members : ∀ m ∈ v.members, Floatless m.2) : Floatless v

/-- The literal of a value without doubles may start with the character. -/
def StartsLiteral (c : Char) : Prop := StartsValue c ∨ c = '\''

theorem StartsLiteral.ne {c d : Char} (h : StartsLiteral c)
    (hd : (d == '-' || d.isAlphanum) = false) (hdouble : d ≠ '"') (hsingle : d ≠ '\'')
    (hbracket : d ≠ '[') (hbrace : d ≠ '\x7b') : c ≠ d := by
  rcases h with h | rfl
  · exact ne_of_startsValue h hd hdouble hbracket hbrace
  · exact hsingle.symm

theorem StartsLiteral.isSpace {c : Char} (h : StartsLiteral c) : isSpace c = false := by
  rcases h with h | rfl
  · exact isSpace_of_startsValue h
  · rfl

theorem exists_quoted_start (s : Text) : ∃ c more, s.quoted = .char c :: more ∧
    StartsLiteral c := by
  by_cases hquotes : .char '\'' ∈ s ∧ .char '"' ∉ s
  · have happend := quoted_append hquotes.1 hquotes.2 []
    rw [List.append_nil] at happend
    exact ⟨'"', _, happend, Or.inl (Or.inr (Or.inl rfl))⟩
  · obtain ⟨more, hmore⟩ := exists_quoted_eq hquotes
    exact ⟨'\'', more, hmore, Or.inr rfl⟩

theorem exists_literal_start {v : Value} (h : v.Floatless) :
    ∃ c more, v.literal = .char c :: more ∧ StartsLiteral c := by
  obtain ⟨hfloat, -, -⟩ := h
  cases v with
  | null => exact ⟨'N', _, rfl, Or.inl (Or.inl (Or.inr rfl))⟩
  | bool b => cases b <;> exact ⟨_, _, rfl, Or.inl (Or.inl (Or.inr rfl))⟩
  | int n =>
    obtain ⟨c, more, h, hc⟩ := exists_toString_eq n
    exact ⟨c, more, h, Or.inl (Or.inl hc)⟩
  | float x => exact absurd rfl (hfloat x)
  | string s => exact exists_quoted_start s
  | array items => exact ⟨'[', _, rfl, Or.inl (Or.inr (Or.inr (Or.inl rfl)))⟩
  | object members => exact ⟨'\x7b', _, rfl, Or.inl (Or.inr (Or.inr (Or.inr rfl)))⟩

theorem skipSpace_literal {v : Value} (h : v.Floatless) (rest : Text) :
    skipSpace (v.literal ++ rest) = v.literal ++ rest := by
  obtain ⟨c, more, heq, hc⟩ := exists_literal_start h
  rw [heq]
  exact skipSpace_cons hc.isSpace (more ++ rest)

theorem exists_join_eq (part : Text) (parts : List Text) :
    ∃ more, Text.join ", " (part :: parts) = part ++ more := by
  cases parts with
  | nil => exact ⟨[], by rw [Text.join, List.intercalate_singleton, List.append_nil]⟩
  | cons part' parts => exact ⟨_, by rw [Text.join, List.intercalate_cons_cons, List.append_assoc]⟩

theorem join_singleton (part : Text) : Text.join ", " [part] = part := List.intercalate_singleton

theorem join_cons_cons (part part' : Text) (parts : List Text) :
    Text.join ", " (part :: part' :: parts) =
      part ++ .char ',' :: .char ' ' :: Text.join ", " (part' :: parts) := by
  unfold Text.join
  rw [List.intercalate_cons_cons, List.append_assoc]
  rfl

theorem exists_items_start {v : Value} (h : v.Floatless) (items : List Value) :
    ∃ c more, Text.join ", " (literals (v :: items)) = .char c :: more ∧ StartsLiteral c := by
  obtain ⟨c, more, heq, hc⟩ := exists_literal_start h
  obtain ⟨more', hjoin⟩ := exists_join_eq v.literal (literals items)
  rw [heq, List.cons_append] at hjoin
  rw [literals, heq]
  exact ⟨c, _, hjoin, hc⟩

theorem exists_members_start (member : Text × Value) (members : Members) :
    ∃ c more, Text.join ", " (memberLiterals (member :: members)) = .char c :: more ∧
      StartsLiteral c := by
  obtain ⟨key, v⟩ := member
  obtain ⟨c, more, heq, hc⟩ := exists_quoted_start key
  obtain ⟨more', hjoin⟩ := exists_join_eq (key.quoted ++ Text.ofString ": " ++ v.literal)
    (memberLiterals members)
  rw [heq, List.cons_append, List.cons_append, List.cons_append] at hjoin
  rw [memberLiterals, heq, List.cons_append, List.cons_append]
  exact ⟨c, _, hjoin, hc⟩

/-! ### Reading -/

/-- The literal of the value is JSON for it: there are no constants in it, and every string is
quoted as JSON quotes it. -/
inductive Value.LiteralIsJson : Value → Prop
  | int (n : Int) : LiteralIsJson (.int n)
  | string {s : Text} (h : QuotesAsJson s) : LiteralIsJson (.string s)
  | array {items : List Value} (each : ∀ v ∈ items, LiteralIsJson v) : LiteralIsJson (.array items)
  | object {members : Members} (keys : ∀ m ∈ members, QuotesAsJson m.1)
    (each : ∀ m ∈ members, LiteralIsJson m.2) : LiteralIsJson (.object members)

/-- Whatever follows it, the literal of the value is read as the value or not at all. -/
def ReadsLiteral (depth : Nat) (v : Value) : Prop :=
  ∀ fuel rest, NumeralEnds rest → v.literal.length < fuel →
    ReadsIff v.LiteralIsJson (readValue fuel depth (v.literal ++ rest)) (v, rest)

theorem readItems_succ (fuel depth : Nat) (t : Text) :
    readItems (fuel + 1) depth t = readValue fuel depth t >>= fun x =>
      match skipSpace x.2 with
      | .char ']' :: left => .ok ([x.1], left)
      | .char ',' :: left =>
        (readItems fuel depth (skipSpace left)).map fun y => (x.1 :: y.1, y.2)
      | left => .error (.malformed .expectedComma left.length) := by
  rewrite [readItems]
  rfl

section

variable {p q : Prop} {fuel depth : Nat} {v : Value} {t rest left : Text}

/-- The last item of an array. -/
theorem readsIff_readItems_last (h : ReadsIff p (readValue fuel depth t) (v, rest))
    (hrest : skipSpace rest = .char ']' :: left) :
    ReadsIff p (readItems (fuel + 1) depth t) ([v], left) := by
  rw [readItems_succ]
  refine ReadsIff.congr (ReadsIff.bind h fun _ => ?_) (and_iff_left trivial).symm
  dsimp only
  rw [hrest]
  exact readsIff_of_eq_ok rfl trivial

/-- An item that others follow. -/
theorem readsIff_readItems_more {items : List Value} {last : Text}
    (h : ReadsIff p (readValue fuel depth t) (v, rest))
    (hrest : skipSpace rest = .char ',' :: left)
    (hitems : ReadsIff q (readItems fuel depth (skipSpace left)) (items, last)) :
    ReadsIff (p ∧ q) (readItems (fuel + 1) depth t) (v :: items, last) := by
  rw [readItems_succ]
  refine ReadsIff.bind h fun _ => ?_
  dsimp only
  rw [hrest]
  exact hitems.map fun y => (v :: y.1, y.2)

end

theorem readsIff_readItems {depth : Nat} (fuel : Nat) {items : List Value}
    (h : ∀ v ∈ items, ReadsLiteral depth v) (hfloat : ∀ v ∈ items, v.Floatless) (hne : items ≠ [])
    (rest : Text) (hfuel : (Text.join ", " (literals items)).length + 1 < fuel) :
    ReadsIff (∀ v ∈ items, v.LiteralIsJson)
      (readItems fuel depth (Text.join ", " (literals items) ++ .char ']' :: rest))
      (items, rest) := by
  induction items generalizing fuel with
  | nil => exact absurd rfl hne
  | cons v items ih =>
    obtain ⟨fuel, rfl⟩ := Nat.exists_eq_succ_of_ne_zero (Nat.ne_zero_of_lt hfuel)
    obtain ⟨hv, hitems⟩ := List.forall_mem_cons.1 h
    cases items with
    | nil =>
      rw [literals, literals, join_singleton] at hfuel ⊢
      have hbracket : NumeralEnds (.char ']' :: rest) := by
        rintro _ ⟨⟩
        decide
      exact (readsIff_readItems_last (hv fuel _ hbracket (by omega))
        (skipSpace_cons (by decide) rest)).congr List.forall_mem_singleton
    | cons w items =>
      obtain ⟨-, hfloat⟩ := List.forall_mem_cons.1 hfloat
      obtain ⟨c, more, hstart, hc⟩ := exists_items_start (hfloat w List.mem_cons_self) items
      rw [literals, literals, join_cons_cons, ← literals] at hfuel ⊢
      simp only [List.length_append, List.length_cons] at hfuel
      have hrest := ih fuel hitems hfloat (List.cons_ne_nil _ _) (by omega)
      have hspace : skipSpace (.char ' ' :: (Text.join ", " (literals (w :: items)) ++
          .char ']' :: rest)) = Text.join ", " (literals (w :: items)) ++ .char ']' :: rest := by
        rw [hstart]
        exact skipSpace_cons hc.isSpace _
      rw [← hspace] at hrest
      rw [List.append_assoc]
      exact (readsIff_readItems_more (hv fuel _ (numeralEnds_comma _) (by omega))
        (skipSpace_cons (by decide) _) hrest).congr List.forall_mem_cons

section

variable {p q : Prop} {fuel depth : Nat} {v : Value} {key t rest left : Text}

/-- A member of an object, read as far as its value. -/
theorem readsIff_member (before : Members) (hpair : PairFree key) (hstart : skipSpace t = t)
    (hv : ReadsIff p (readValue fuel depth t) (v, rest)) {result : Members × Text}
    (hnext : ReadsIff q (match skipSpace rest with
      | .char '\x7d' :: left => .ok (before.put key v, left)
      | .char ',' :: left => readMembers fuel depth (before.put key v) (skipSpace left)
      | left => .error (.malformed .expectedComma left.length)) result) :
    ReadsIff (QuotesAsJson key ∧ p ∧ q)
      (readMembers (fuel + 1) depth before (key.quoted ++ (Text.ofString ": " ++ t))) result := by
  by_cases hquotes : .char '\'' ∈ key ∧ .char '"' ∉ key
  · rw [quoted_append hquotes.1 hquotes.2]
    have hread := readsIff_readText hquotes.1 hquotes.2 hpair (Text.ofString ": " ++ t)
    by_cases hkey : QuotesAsJson key
    · rw [readMembers_of_readText before (hread.1 hkey) hstart]
      exact (ReadsIff.bind hv fun _ => hnext).congr (and_iff_right hkey)
    · refine readsIff_of_isOk_eq_false ?_ fun hall => hkey hall.1
      rw [readMembers]
      cases hr : readText (key.flatMap (Text.quotedCode '"') ++
          .char '"' :: (Text.ofString ": " ++ t)) with
      | error stop => rfl
      | ok x =>
        rw [hr] at hread
        exact absurd (hread.2 rfl) hkey
  · obtain ⟨more, hmore⟩ := exists_quoted_eq hquotes
    rw [hmore]
    refine readsIff_of_isOk_eq_false rfl ?_
    rintro ⟨hkey, -, -⟩
    exact hquotes ⟨hkey.single, hkey.double⟩

/-- The last member of an object. -/
theorem readsIff_readMembers_last (before : Members) (hpair : PairFree key)
    (hstart : skipSpace t = t) (hv : ReadsIff p (readValue fuel depth t) (v, rest))
    (hrest : skipSpace rest = .char '\x7d' :: left) :
    ReadsIff (QuotesAsJson key ∧ p)
      (readMembers (fuel + 1) depth before (key.quoted ++ (Text.ofString ": " ++ t)))
      (before.put key v, left) := by
  refine (readsIff_member (q := True) before hpair hstart hv ?_).congr ?_
  · rw [hrest]
    exact readsIff_of_eq_ok rfl trivial
  · rw [and_true]

/-- A member that others follow. -/
theorem readsIff_readMembers_more (before : Members) (hpair : PairFree key)
    (hstart : skipSpace t = t) (hv : ReadsIff p (readValue fuel depth t) (v, rest))
    (hrest : skipSpace rest = .char ',' :: left) {result : Members × Text}
    (hmembers : ReadsIff q (readMembers fuel depth (before.put key v) (skipSpace left)) result) :
    ReadsIff (QuotesAsJson key ∧ p ∧ q)
      (readMembers (fuel + 1) depth before (key.quoted ++ (Text.ofString ": " ++ t))) result := by
  refine readsIff_member before hpair hstart hv ?_
  rw [hrest]
  exact hmembers

end

theorem readsIff_readMembers {depth : Nat} (fuel : Nat) (before : Members) {members : Members}
    (h : ∀ m ∈ members, ReadsLiteral depth m.2) (hfloat : ∀ m ∈ members, m.2.Floatless)
    (hpair : ∀ m ∈ members, PairFree m.1) (hne : members ≠ [])
    (hkeys : (before.keys ++ members.keys).Nodup) (rest : Text)
    (hfuel : (Text.join ", " (memberLiterals members)).length < fuel) :
    ReadsIff (∀ m ∈ members, QuotesAsJson m.1 ∧ m.2.LiteralIsJson)
      (readMembers fuel depth before
        (Text.join ", " (memberLiterals members) ++ .char '\x7d' :: rest))
      (before ++ members, rest) := by
  induction members generalizing before fuel with
  | nil => exact absurd rfl hne
  | cons member members ih =>
    obtain ⟨key, v⟩ := member
    obtain ⟨fuel, rfl⟩ := Nat.exists_eq_succ_of_ne_zero (Nat.ne_zero_of_lt hfuel)
    obtain ⟨hv, hmembers⟩ := List.forall_mem_cons.1 h
    obtain ⟨hvfloat, hfloat⟩ := List.forall_mem_cons.1 hfloat
    obtain ⟨hkeypair, hpair⟩ := List.forall_mem_cons.1 hpair
    dsimp only at hv hvfloat hkeypair
    have hkey : key ∉ before.keys := fun hmem =>
      List.disjoint_of_nodup_append hkeys hmem List.mem_cons_self
    have hput := Members.put_eq_append hkey v
    have hcolon : (Text.ofString ": ").length = 2 := rfl
    cases members with
    | nil =>
      rw [memberLiterals, memberLiterals, join_singleton] at hfuel ⊢
      simp only [List.length_append] at hfuel
      have hbrace : NumeralEnds (.char '\x7d' :: rest) := by
        rintro _ ⟨⟩
        decide
      rw [List.append_assoc, List.append_assoc, ← hput]
      exact (readsIff_readMembers_last before hkeypair (skipSpace_literal hvfloat _)
        (hv fuel _ hbrace (by omega)) (skipSpace_cons (by decide) rest)).congr
          List.forall_mem_singleton
    | cons member' members =>
      obtain ⟨c, more, hstart, hc⟩ := exists_members_start member' members
      obtain ⟨key', v'⟩ := member'
      rw [memberLiterals, memberLiterals, join_cons_cons, ← memberLiterals] at hfuel ⊢
      simp only [List.length_append, List.length_cons] at hfuel
      have hkeys' : (Members.keys (before ++ [(key, v)]) ++
          Members.keys ((key', v') :: members)).Nodup := by
        simpa [Members.keys] using hkeys
      have hrest := ih fuel _ hmembers hfloat hpair (List.cons_ne_nil _ _) hkeys' (by omega)
      have hspace : skipSpace (.char ' ' ::
          (Text.join ", " (memberLiterals ((key', v') :: members)) ++ .char '\x7d' :: rest)) =
            Text.join ", " (memberLiterals ((key', v') :: members)) ++ .char '\x7d' :: rest := by
        rw [hstart]
        exact skipSpace_cons hc.isSpace _
      rw [← hspace, List.append_assoc, List.singleton_append, ← hput] at hrest
      simp only [List.append_assoc]
      refine (readsIff_readMembers_more before hkeypair (skipSpace_literal hvfloat _)
        (hv fuel _ (numeralEnds_comma _) (by omega)) (skipSpace_cons (by decide) _) hrest).congr ?_
      rw [List.forall_mem_cons, and_assoc]

/-! ### Values -/

theorem readsLiteral_array {depth : Nat} {items : List Value}
    (h : ∀ v ∈ items, ReadsLiteral depth v) (hfloat : ∀ v ∈ items, v.Floatless) :
    ReadsLiteral (depth + 1) (.array items) := by
  intro fuel rest hrest hfuel
  obtain ⟨fuel, rfl⟩ := Nat.exists_eq_succ_of_ne_zero (Nat.ne_zero_of_lt hfuel)
  have hiff : (Value.array items).LiteralIsJson ↔ ∀ v ∈ items, v.LiteralIsJson :=
    ⟨fun hjson => by cases hjson; assumption, .array⟩
  cases items with
  | nil => exact readsIff_of_eq_ok rfl (hiff.2 (List.forall_mem_nil _))
  | cons v items =>
    have hliteral : (Value.array (v :: items)).literal =
        .char '[' :: (Text.join ", " (literals (v :: items)) ++ [.char ']']) := rfl
    rw [hliteral] at hfuel ⊢
    simp only [List.length_append, List.length_cons] at hfuel
    have hitems := readsIff_readItems fuel h hfloat (List.cons_ne_nil _ _) rest (by omega)
    obtain ⟨c, more, hstart, hc⟩ := exists_items_start (hfloat v List.mem_cons_self) items
    have hbracket : c ≠ ']' :=
      hc.ne (by decide) (by decide) (by decide) (by decide) (by decide)
    rw [List.cons_append, List.append_assoc, List.singleton_append]
    rw [hstart] at hitems ⊢
    have hskip := skipSpace_cons hc.isSpace (more ++ .char ']' :: rest)
    rw [List.cons_append] at hitems ⊢
    rw [readValue_bracket (by rw [hskip]; simp [hbracket]), hskip]
    exact (hitems.map fun x => (Value.array x.1, x.2)).congr hiff

theorem readsLiteral_object {depth : Nat} {members : Members} (hkeys : members.keys.Nodup)
    (h : ∀ m ∈ members, ReadsLiteral depth m.2) (hfloat : ∀ m ∈ members, m.2.Floatless)
    (hpair : ∀ m ∈ members, PairFree m.1) : ReadsLiteral (depth + 1) (.object members) := by
  intro fuel rest hrest hfuel
  obtain ⟨fuel, rfl⟩ := Nat.exists_eq_succ_of_ne_zero (Nat.ne_zero_of_lt hfuel)
  have hiff : (Value.object members).LiteralIsJson ↔
      ∀ m ∈ members, QuotesAsJson m.1 ∧ m.2.LiteralIsJson := by
    constructor
    · intro hjson
      cases hjson with
      | object keys each => exact fun m hm => ⟨keys m hm, each m hm⟩
    · intro hall
      exact .object (fun m hm => (hall m hm).1) fun m hm => (hall m hm).2
  cases members with
  | nil => exact readsIff_of_eq_ok rfl (hiff.2 (List.forall_mem_nil _))
  | cons member members =>
    have hliteral : (Value.object (member :: members)).literal =
        .char '\x7b' :: (Text.join ", " (memberLiterals (member :: members)) ++
          [.char '\x7d']) := rfl
    rw [hliteral] at hfuel ⊢
    simp only [List.length_append, List.length_cons] at hfuel
    have hmembers := readsIff_readMembers fuel [] h hfloat hpair (List.cons_ne_nil _ _) hkeys rest
      (by omega)
    obtain ⟨c, more, hstart, hc⟩ := exists_members_start member members
    have hbrace : c ≠ '\x7d' :=
      hc.ne (by decide) (by decide) (by decide) (by decide) (by decide)
    rw [List.cons_append, List.append_assoc, List.singleton_append]
    rw [hstart] at hmembers ⊢
    have hskip := skipSpace_cons hc.isSpace (more ++ .char '\x7d' :: rest)
    rw [List.cons_append] at hmembers ⊢
    rw [readValue_brace (by rw [hskip]; simp [hbrace]), hskip]
    exact (hmembers.map fun x => (Value.object x.1, x.2)).congr hiff

/-- The literal of a readable value without doubles is read as the value if it is JSON for it, and
not at all otherwise. -/
theorem readsLiteral_of_readable {depth : Nat} {v : Value} (h : v.Readable depth)
    (hfloat : v.Floatless) (hpair : v.PairFree) : ReadsLiteral depth v := by
  induction h with
  | null depth =>
    intro fuel rest hrest hfuel
    obtain ⟨fuel, rfl⟩ := Nat.exists_eq_succ_of_ne_zero (Nat.ne_zero_of_lt hfuel)
    exact readsIff_of_isOk_eq_false rfl fun hjson => by cases hjson
  | bool depth b =>
    intro fuel rest hrest hfuel
    obtain ⟨fuel, rfl⟩ := Nat.exists_eq_succ_of_ne_zero (Nat.ne_zero_of_lt hfuel)
    cases b <;> exact readsIff_of_isOk_eq_false rfl fun hjson => by cases hjson
  | @int depth n short =>
    intro fuel rest hrest hfuel
    obtain ⟨fuel, rfl⟩ := Nat.exists_eq_succ_of_ne_zero (Nat.ne_zero_of_lt hfuel)
    refine readsIff_of_eq_ok ?_ (.int n)
    obtain ⟨c, more, heq, hc⟩ := exists_toString_eq n
    show readValue (fuel + 1) depth (Text.ofString (toString n) ++ rest) = _
    rw [← readScalar_int short hrest, heq]
    exact readValue_scalar hc fuel depth (more ++ rest)
  | float depth x =>
    obtain ⟨hscalar, -, -⟩ := hfloat
    exact absurd rfl (hscalar x)
  | string depth s =>
    intro fuel rest hrest hfuel
    obtain ⟨fuel, rfl⟩ := Nat.exists_eq_succ_of_ne_zero (Nat.ne_zero_of_lt hfuel)
    obtain ⟨htext, -, -, -⟩ := hpair
    refine (readsIff_quoted (htext s rfl) fuel depth rest).congr ?_
    exact ⟨fun hjson => by cases hjson; assumption, .string⟩
  | array each ih =>
    obtain ⟨-, hfloats, -⟩ := hfloat
    obtain ⟨-, hpairs, -, -⟩ := hpair
    exact readsLiteral_array (fun v hv => ih v hv (hfloats v hv) (hpairs v hv)) hfloats
  | object distinct each ih =>
    obtain ⟨-, -, hfloats⟩ := hfloat
    obtain ⟨-, -, hkeys, hpairs⟩ := hpair
    exact readsLiteral_object distinct (fun m hm => ih m hm (hfloats m hm) (hpairs m hm)) hfloats
      hkeys

/-! ### Whole texts -/

theorem surrogateFree_ofString (s : String) : SurrogateFree (Text.ofString s) := by
  intro c hc
  obtain ⟨d, -, rfl⟩ := List.mem_map.1 hc
  rfl

theorem SurrogateFree.append {t t' : Text} (h : SurrogateFree t) (h' : SurrogateFree t') :
    SurrogateFree (t ++ t') :=
  List.forall_mem_append.2 ⟨h, h'⟩

theorem isSurrogate_of_isPrintable {c : CodePoint} (h : c.isPrintable = true) :
    c.isSurrogate = false := by
  cases c with
  | char c => rfl
  | surrogate index =>
    have hlow : 0xD800 ≤ (CodePoint.surrogate index).toNat := Nat.le_add_right _ _
    have hhigh : (CodePoint.surrogate index).toNat < 0xE000 := by
      have := index.isLt
      show 0xD800 + (index : Nat) < 0xE000
      omega
    have hrange : (0xD7FC, 0xF8FF) ∈ Text.unprintableRanges := by decide
    have hcovers : Text.unprintableRanges.covers (.surrogate index) = true :=
      List.any_eq_true.2 ⟨_, hrange, by simp; omega⟩
    rw [CodePoint.isPrintable, if_neg (by omega), hcovers] at h
    cases h

theorem surrogateFree_quotedCode (quote : Char) (c : CodePoint) :
    SurrogateFree (Text.quotedCode (.char quote) c) := by
  unfold Text.quotedCode
  split_ifs with hescape _ _ _ hprintable
  · rw [Bool.or_eq_true, beq_iff_eq, beq_iff_eq] at hescape
    intro d hd
    rcases List.mem_pair.1 hd with rfl | rfl
    · rfl
    · rcases hescape with rfl | rfl <;> rfl
  · exact surrogateFree_ofString "\\t"
  · exact surrogateFree_ofString "\\n"
  · exact surrogateFree_ofString "\\r"
  · exact List.forall_mem_singleton.2 (isSurrogate_of_isPrintable hprintable)
  · exact surrogateFree_ofString _

theorem surrogateFree_quoted (s : Text) : SurrogateFree s.quoted := by
  have hquote : ∃ q : Char, s.quoteFor = .char q := by
    unfold Text.quoteFor
    split <;> exact ⟨_, rfl⟩
  obtain ⟨q, hq⟩ := hquote
  unfold Text.quoted
  rw [hq]
  refine SurrogateFree.append (List.forall_mem_cons.2 ⟨rfl, fun d hd => ?_⟩)
    (List.forall_mem_singleton.2 rfl)
  obtain ⟨c, -, hd⟩ := List.mem_flatMap.1 hd
  exact surrogateFree_quotedCode q c d hd

theorem surrogateFree_join {parts : List Text} (h : ∀ part ∈ parts, SurrogateFree part) :
    SurrogateFree (Text.join ", " parts) := by
  induction parts with
  | nil => exact List.forall_mem_nil _
  | cons part parts ih =>
    obtain ⟨hpart, hparts⟩ := List.forall_mem_cons.1 h
    cases parts with
    | nil => rwa [join_singleton]
    | cons part' parts =>
      rw [join_cons_cons]
      exact hpart.append (List.forall_mem_cons.2 ⟨rfl, List.forall_mem_cons.2 ⟨rfl, ih hparts⟩⟩)

mutual

theorem surrogateFree_literal : ∀ v : Value, SurrogateFree v.literal
  | .null => surrogateFree_ofString "None"
  | .bool true => surrogateFree_ofString "True"
  | .bool false => surrogateFree_ofString "False"
  | .int n => surrogateFree_ofString (toString n)
  | .float x => surrogateFree_ofString x.text
  | .string s => surrogateFree_quoted s
  | .array items =>
    ((surrogateFree_ofString "[").append (surrogateFree_join (surrogateFree_literals items))).append
      (surrogateFree_ofString "]")
  | .object members =>
    ((surrogateFree_ofString "\x7b").append
      (surrogateFree_join (surrogateFree_memberLiterals members))).append
        (surrogateFree_ofString "\x7d")

theorem surrogateFree_literals : ∀ items : List Value, ∀ part ∈ literals items, SurrogateFree part
  | [] => List.forall_mem_nil _
  | v :: items =>
    List.forall_mem_cons.2 ⟨surrogateFree_literal v, surrogateFree_literals items⟩

theorem surrogateFree_memberLiterals : ∀ members : List (Text × Value),
    ∀ part ∈ memberLiterals members, SurrogateFree part
  | [] => List.forall_mem_nil _
  | (key, v) :: members =>
    List.forall_mem_cons.2 ⟨((surrogateFree_quoted key).append (surrogateFree_ofString ": ")).append
      (surrogateFree_literal v), surrogateFree_memberLiterals members⟩

end

theorem Value.LiteralIsJson.pairFree {v : Value} (h : v.LiteralIsJson) : v.PairFree := by
  induction h with
  | int n => exact Value.pairFree_of_isScalar ⟨rfl, rfl, rfl⟩
  | string h => exact Value.pairFree_string h.pairs
  | array each ih => exact Value.pairFree_array ih
  | object keys each ih =>
    exact .intro (by simp [Value.text?]) (by simp [Value.items]) (fun m hm => (keys m hm).pairs) ih

/-- The literal of a value without doubles is read as the value exactly when it is JSON for it. -/
theorem readAll_literal_iff {v : Value} (h : v.Readable depthLimit) (hfloat : v.Floatless) :
    readAll v.literal = .ok v ↔ v.LiteralIsJson := by
  have hskip := skipSpace_literal hfloat []
  have hends : NumeralEnds [] := by
    rintro _ ⟨⟩
  have hreads (hpair : v.PairFree) :=
    readsLiteral_of_readable h hfloat hpair (2 * v.literal.length + 2) [] hends (by omega)
  rw [List.append_nil] at hskip hreads
  rw [readAll_eq_ok_iff, hskip]
  constructor
  · rintro ⟨left, hread, hleft⟩
    have hall : readAll v.literal = .ok v := readAll_eq_ok_iff.2 ⟨left, by rwa [hskip], hleft⟩
    refine (hreads (pairFree_of_readAll (surrogateFree_literal v) hall)).2 ?_
    rw [hread]
    rfl
  · intro hjson
    exact ⟨[], (hreads hjson.pairFree).1 hjson, rfl⟩

theorem read_literal_iff {v : Value} (h : v.Readable depthLimit) (hfloat : v.Floatless) :
    read v.literal = .ok v ↔ v.LiteralIsJson := by
  rw [← readAll_literal_iff h hfloat]
  obtain ⟨c, more, heq, hc⟩ := exists_literal_start hfloat
  have hmark : c ≠ '\ufeff' :=
    hc.ne (by decide) (by decide) (by decide) (by decide) (by decide)
  rw [heq, read]
  · exact Outcome.mapError_eq_ok_iff
  · rintro _ hmore
    exact hmark (CodePoint.char.inj (List.cons.inj hmore).1)

/-- A default is read back as the value that it is given as exactly when the value is a boolean or
its literal is JSON for it. -/
theorem read_asDefault_iff {v : Value} (h : v.Readable depthLimit) (hfloat : v.Floatless)
    (hnull : v ≠ .null) (hstring : ∀ s, v ≠ .string s) : ∃ t, v.asDefault = some t ∧
      (read t = .ok v ↔ (∃ b, v = .bool b) ∨ v.LiteralIsJson) := by
  cases v with
  | null => exact absurd rfl hnull
  | string s => exact absurd rfl (hstring s)
  | bool b =>
    refine ⟨_, rfl, iff_of_true ?_ (Or.inl ⟨b, rfl⟩)⟩
    cases b <;> rfl
  | float x =>
    obtain ⟨hscalar, -, -⟩ := hfloat
    exact absurd rfl (hscalar x)
  | int n =>
    refine ⟨_, rfl, (read_literal_iff h hfloat).trans ?_⟩
    simp
  | array items =>
    refine ⟨_, rfl, (read_literal_iff h hfloat).trans ?_⟩
    simp
  | object members =>
    refine ⟨_, rfl, (read_literal_iff h hfloat).trans ?_⟩
    simp

end ServiceContract.Json
