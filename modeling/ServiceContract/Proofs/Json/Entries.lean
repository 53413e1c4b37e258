import Mathlib.Tactic.SplitIfs
import ServiceContract.Proofs.Json.Members
import ServiceContract.Proofs.Outcome

/-!
# Objects as they are written

In the text of an object a key may stand more than once.  `entriesOf?` reads the entries of the
object that a text is, with repeated keys kept and in the order of the text; a text is read as an
object exactly when it has entries, and the members then are these, put in one after the other
(`read_eq_object_iff`).  So the value of a key is that of its last entry (`get?_putAll`).
-/

namespace ServiceContract.Json

/-! ### The last entry of a key -/

/-- The members with entries put in one after the other. -/
def Members.putAll (members entries : Members) : Members :=
  entries.foldl (fun members entry => members.put entry.1 entry.2) members

/-- The value of the last entry of a key. -/
def lastOf? (entries : Members) (key : Text) : Option Value := Members.get? entries.reverse key

theorem Members.get?_put (members : Members) (key : Text) (value : Value) (k : Text) :
    (members.put key value).get? k = if k = key then some value else members.get? k := by
  induction members with
  | nil => rw [put, get?_cons]
  | cons member rest ih =>
    obtain ⟨key', value'⟩ := member
    rw [put]
    by_cases hkey : key' = key
    · subst hkey
      rw [if_pos rfl, get?_cons, get?_cons]
      split_ifs <;> rfl
    · rw [if_neg hkey, get?_cons, get?_cons, ih]
      split_ifs with h₁ h₂
      · exact absurd (h₁.symm.trans h₂) hkey
      · rfl
      · rfl
      · rfl

theorem Members.get?_append (members more : Members) (k : Text) :
    get? (members ++ more) k = (members.get? k).or (more.get? k) := by
  unfold get?
  rw [List.lookup_append]

/-- What is put in later is found first. -/
theorem Members.get?_putAll (members entries : Members) (k : Text) :
    (members.putAll entries).get? k = (lastOf? entries k).or (members.get? k) := by
  induction entries generalizing members with
  | nil => rfl
  | cons entry rest ih =>
    obtain ⟨key, value⟩ := entry
    have hput : (members.put key value).get? k =
        (Members.get? [(key, value)] k).or (members.get? k) := by
      rw [get?_put, get?_cons]
      split_ifs <;> rfl
    have hlast : lastOf? ((key, value) :: rest) k =
        (lastOf? rest k).or (Members.get? [(key, value)] k) := by
      rw [lastOf?, List.reverse_cons, get?_append]
      rfl
    rw [hlast, Option.or_assoc, ← hput]
    exact ih (members.put key value)

/-! ### Reading entries -/

/-- The entries of an object from a key on. -/
def readEntries : (fuel depth : Nat) → Text → Except Stop (Members × Text)
  | 0, _, t => .error (.malformed .expectedKey t.length)
  | fuel + 1, depth, t =>
    match t with
    | .char '"' :: rest => do
      let (key, left) ← readText rest
      match skipSpace left with
      | .char ':' :: left =>
        let (value, left) ← readValue fuel depth (skipSpace left)
        match skipSpace left with
        | .char '\x7d' :: left => .ok ([(key, value)], left)
        | .char ',' :: left =>
          (readEntries fuel depth (skipSpace left)).map fun (entries, left) =>
            ((key, value) :: entries, left)
        | left => .error (.malformed .expectedComma left.length)
      | left => .error (.malformed .expectedColon left.length)
    | t => .error (.malformed .expectedKey t.length)

/-- The members of an object are its entries, put in one after the other. -/
theorem readMembers_eq_map (fuel depth : Nat) (members : Members) (t : Text) :
    readMembers fuel depth members t =
      (readEntries fuel depth t).map fun x => (members.putAll x.1, x.2) := by
  induction fuel generalizing members t with
  | zero => rfl
  | succ fuel ih =>
    by_cases ht : ∃ rest, t = .char '"' :: rest
    · obtain ⟨rest, rfl⟩ := ht
      rw [readMembers, readEntries]
      cases readText rest with
      | error stop => rfl
      | ok result =>
        obtain ⟨key, left⟩ := result
        simp only [bind, Except.bind]
        by_cases hcolon : ∃ after, skipSpace left = .char ':' :: after
        · obtain ⟨after, hafter⟩ := hcolon
          simp only [hafter]
          cases readValue fuel depth (skipSpace after) with
          | error stop => rfl
          | ok result =>
            obtain ⟨value, left⟩ := result
            simp only
            by_cases hbrace : ∃ after, skipSpace left = .char '\x7d' :: after
            · obtain ⟨after, hafter⟩ := hbrace
              simp only [hafter]
              rfl
            by_cases hcomma : ∃ after, skipSpace left = .char ',' :: after
            · obtain ⟨after, hafter⟩ := hcomma
              simp only [hafter, ih]
              cases readEntries fuel depth (skipSpace after) <;> rfl
            · push Not at hbrace hcomma
              simp [Except.map]
        · push Not at hcolon
          simp [Except.map]
    · push Not at ht
      rw [readMembers, readEntries]
      · rfl
      · exact fun rest h => ht rest h
      · exact fun rest h => ht rest h

/-! ### Whole texts -/

/-- The entries of the object that a text starts with, at its opening brace. -/
def readObject (fuel depth : Nat) (t : Text) : Except Stop (Members × Text) :=
  match skipSpace t with
  | .char '\x7d' :: left => .ok ([], left)
  | left => readEntries fuel depth left

/-- The entries of the object that a text is. -/
def entriesOf? (text : Text) : Option Members :=
  match skipSpace text with
  | .char '\x7b' :: rest =>
    match readObject (2 * text.length + 1) (depthLimit - 1) rest with
    | .ok (entries, left) => if (skipSpace left).isEmpty then some entries else none
    | .error _ => none
  | _ => none

theorem readValue_brace_eq (fuel depth : Nat) (rest : Text) :
    readValue (fuel + 1) (depth + 1) (.char '\x7b' :: rest) =
      (readObject fuel depth rest).map fun x => (.object (Members.putAll [] x.1), x.2) := by
  by_cases hbrace : ∃ left, skipSpace rest = .char '\x7d' :: left
  · obtain ⟨left, hleft⟩ := hbrace
    simp only [readValue, readObject, hleft]
    rfl
  · push Not at hbrace
    rw [readValue_brace hbrace, readMembers_eq_map]
    simp only [readObject]
    cases readEntries fuel depth (skipSpace rest) <;> rfl

theorem kind_of_readScalar {t left : Text} {v : Value} (h : readScalar t = .ok (v, left)) :
    v.kind ≠ .object := by
  unfold readScalar at h
  split at h
  · rename_i result hconstant
    obtain rfl := Except.ok.inj h
    obtain ⟨⟨name, w⟩, hmem, hw⟩ := List.exists_of_findSome?_eq_some hconstant
    have hkinds : ∀ constant ∈ constants, constant.2.kind ≠ .object := by decide
    dsimp only at hw
    split_ifs at hw
    obtain ⟨rfl, -⟩ := Prod.mk.inj (Option.some.inj hw)
    exact hkinds _ hmem
  · split at h
    · rename_i numeral rest _
      obtain ⟨w, hw, heq⟩ := Outcome.map_eq_ok_iff.1 h
      obtain ⟨rfl, -⟩ := Prod.mk.inj heq
      unfold Numeral.value at hw
      split_ifs at hw
      · obtain rfl := Except.ok.inj hw
        exact Kind.noConfusion
      · obtain rfl := Except.ok.inj hw
        exact Kind.noConfusion
    · cases h

/-- Only a brace opens an object. -/
theorem exists_brace_of_readValue {fuel depth : Nat} {t left : Text} {members : Members}
    (h : readValue (fuel + 1) depth t = .ok (.object members, left)) :
    ∃ depth' rest, depth = depth' + 1 ∧ t = .char '\x7b' :: rest := by
  rw [readValue.eq_def] at h
  dsimp only at h
  split at h
  · obtain ⟨_, -, heq⟩ := Outcome.map_eq_ok_iff.1 h
    simp at heq
  · split at h
    · cases h
    · exact ⟨_, _, rfl, rfl⟩
  · split at h
    · cases h
    · split at h
      · simp at h
      · obtain ⟨_, -, heq⟩ := Outcome.map_eq_ok_iff.1 h
        simp at heq
  · exact absurd rfl (kind_of_readScalar h)

theorem entriesOf?_eq_some_iff {text : Text} {entries : Members} :
    entriesOf? text = some entries ↔ ∃ rest left, skipSpace text = .char '\x7b' :: rest ∧
      readObject (2 * text.length + 1) (depthLimit - 1) rest = .ok (entries, left) ∧
      skipSpace left = [] := by
  unfold entriesOf?
  split
  · rename_i rest heq
    cases h : readObject (2 * text.length + 1) (depthLimit - 1) rest with
    | error stop => simp [heq, h]
    | ok result =>
      obtain ⟨entries', left⟩ := result
      by_cases hleft : skipSpace left = []
      · simp [heq, h, hleft]
      · simp [heq, h, hleft]
  · rename_i hne
    simp only [reduceCtorEq, false_iff, not_exists, not_and]
    exact fun rest _ heq => absurd heq (hne rest)

theorem readAll_eq_object_iff {text : Text} {members : Members} :
    readAll text = .ok (.object members) ↔
      ∃ entries, entriesOf? text = some entries ∧ members = Members.putAll [] entries := by
  simp only [readAll_eq_ok_iff, entriesOf?_eq_some_iff]
  constructor
  · rintro ⟨left, h, hleft⟩
    obtain ⟨depth, rest, hdepth, heq⟩ := exists_brace_of_readValue h
    obtain rfl : depth = depthLimit - 1 := by rw [hdepth, Nat.add_sub_cancel]
    rw [heq, hdepth, readValue_brace_eq, Outcome.map_eq_ok_iff] at h
    obtain ⟨⟨entries, left'⟩, hentries, hresult⟩ := h
    obtain ⟨hmembers, rfl⟩ := Prod.mk.inj hresult
    exact ⟨entries, ⟨rest, left, heq, hentries, hleft⟩, Value.object.inj hmembers⟩
  · rintro ⟨entries, ⟨rest, left, heq, h, hleft⟩, rfl⟩
    refine ⟨left, ?_, hleft⟩
    have hbrace := readValue_brace_eq (2 * text.length + 1) (depthLimit - 1) rest
    rw [h] at hbrace
    rw [heq]
    exact hbrace

/-- A text is read as an object exactly when it has entries, which the members are then put
together from. -/
theorem read_eq_object_iff {text : Text} {members : Members} :
    read text = .ok (.object members) ↔
      ∃ entries, entriesOf? text = some entries ∧ members = Members.putAll [] entries := by
  unfold read
  split
  · rename_i rest
    have hnone : entriesOf? (.char '\ufeff' :: rest) = none := rfl
    simp [hnone]
  · rw [Outcome.mapError_eq_ok_iff, readAll_eq_object_iff]

example : (entriesOf? "\x7b\"a\": 1, \"b\": \x7b\"a\": 2\x7d, \"a\": 3\x7d ").map Members.keys =
    some (["a", "b", "a"] : List Text) := by decide +kernel

end ServiceContract.Json
