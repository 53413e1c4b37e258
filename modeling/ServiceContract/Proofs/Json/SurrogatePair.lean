import Mathlib.Data.List.Chain
import ServiceContract.Proofs.Json.Members
import ServiceContract.Proofs.Json.Reader

/-!
# Surrogate pairs

A reader joins two escapes in a row that name a surrogate pair to the character of the pair.  So
from a text without surrogates no string is read in which the first half of a pair stands right
before a second half (`pairFree_of_readAll`).
-/

namespace ServiceContract.Json

/-- No first half of a surrogate pair stands right before a second half. -/
def PairFree (s : Text) : Prop :=
  s.IsChain fun c d => isHighSurrogate c.toNat = true → isLowSurrogate d.toNat = false

/-- No string of the value, be it a key or not, has a first half before a second one. -/
inductive Value.PairFree : Value → Prop
  | intro {v : Value} (text : ∀ s ∈ v.text?, Json.PairFree s) (items : ∀ w ∈ v.items, PairFree w)
      (keys : ∀ m ∈ v.members, Json.PairFree m.1) (members : ∀ m ∈ v.members, PairFree m.2) :
      PairFree v

/-- None of the code points is a surrogate. -/
def SurrogateFree (t : Text) : Prop := ∀ c ∈ t, CodePoint.isSurrogate c = false

/-! ### Halves -/

/-- The predicate holds of the numbers of surrogates at most. -/
def OfSurrogates (p : Nat → Bool) : Prop := ∀ n, p n = true → 0xD800 ≤ n ∧ n < 0xE000

theorem ofSurrogates_isHighSurrogate : OfSurrogates isHighSurrogate := by
  intro n h
  simp only [isHighSurrogate, Bool.and_eq_true, decide_eq_true_eq] at h
  omega

theorem ofSurrogates_isLowSurrogate : OfSurrogates isLowSurrogate := by
  intro n h
  simp only [isLowSurrogate, Bool.and_eq_true, decide_eq_true_eq] at h
  omega

theorem OfSurrogates.char {p : Nat → Bool} (h : OfSurrogates p) (c : Char) :
    p (CodePoint.char c).toNat = false := by
  have hvalid : c.toNat < 0xD800 ∨ 0xDFFF < c.toNat ∧ c.toNat < 0x110000 := c.valid
  refine Bool.eq_false_iff.2 fun hp => ?_
  obtain ⟨hlow, hhigh⟩ := h _ hp
  rw [CodePoint.toNat] at hlow hhigh
  omega

/-- The numbers of surrogates are those that a code point keeps. -/
theorem toNat_ofNat_of_surrogate {n : Nat} (h : 0xD800 ≤ n ∧ n < 0xE000) :
    (CodePoint.ofNat n).toNat = n := by
  rw [CodePoint.ofNat, dif_pos h, CodePoint.toNat]
  exact Nat.add_sub_cancel' h.1

theorem OfSurrogates.ofNat {p : Nat → Bool} (h : OfSurrogates p) (n : Nat) :
    p (CodePoint.ofNat n).toNat = p n := by
  by_cases hn : 0xD800 ≤ n ∧ n < 0xE000
  · rw [toNat_ofNat_of_surrogate hn]
  · rw [CodePoint.ofNat, dif_neg hn, h.char]
    exact (Bool.eq_false_iff.2 fun hp => hn (h n hp)).symm

theorem isHighSurrogate_char (c : Char) : isHighSurrogate (CodePoint.char c).toNat = false :=
  ofSurrogates_isHighSurrogate.char c

theorem isLowSurrogate_char (c : Char) : isLowSurrogate (CodePoint.char c).toNat = false :=
  ofSurrogates_isLowSurrogate.char c

theorem isHighSurrogate_ofNat (n : Nat) :
    isHighSurrogate (CodePoint.ofNat n).toNat = isHighSurrogate n :=
  ofSurrogates_isHighSurrogate.ofNat n

theorem isLowSurrogate_ofNat (n : Nat) :
    isLowSurrogate (CodePoint.ofNat n).toNat = isLowSurrogate n :=
  ofSurrogates_isLowSurrogate.ofNat n

theorem isLowSurrogate_of_isHighSurrogate {n : Nat} (h : isHighSurrogate n = true) :
    isLowSurrogate n = false := by
  simp only [isHighSurrogate, isLowSurrogate, Bool.and_eq_true, Bool.and_eq_false_iff,
    decide_eq_true_eq, decide_eq_false_iff_not] at h ⊢
  omega

/-! ### Strings -/

/-- The text does not go on with a second half. -/
def StartsWhole (s : Text) : Prop := ∀ c ∈ s.head?, isLowSurrogate c.toNat = false

theorem pairFree_cons {c : CodePoint} {s : Text} (hs : PairFree s)
    (h : isHighSurrogate c.toNat = true → StartsWhole s) : PairFree (c :: s) :=
  List.isChain_cons.2 ⟨fun d hd hc => h hc d hd, hs⟩

/-- A reader leaves a text without surrogates, and what it yields has the property. -/
def YieldsPlain {ε α : Type} (p : α → Prop) : Except ε (α × Text) → Prop
  | .ok (a, left) => p a ∧ SurrogateFree left
  | .error _ => True

/-- What a string is read to after the first half of a pair or nothing. -/
def ReadAfter (pending : Option Nat) (s : Text) : Prop :=
  PairFree s ∧ (pending.isSome = true → StartsWhole s)

section

variable {pending : Option Nat} {s : Text}

/-- A first half that is left open, before what is no second half. -/
theorem ReadAfter.loneHalf_append (hp : ∀ high ∈ pending, isHighSurrogate high = true)
    (h : PairFree s) (hs : pending.isSome = true → StartsWhole s) :
    ReadAfter pending (loneHalf pending ++ s) := by
  cases pending with
  | none => exact ⟨h, fun hnone => by cases hnone⟩
  | some high =>
    have hhigh := hp high rfl
    refine ⟨pairFree_cons h fun _ => hs rfl, fun _ c hc => ?_⟩
    obtain rfl : CodePoint.ofNat high = c := Option.some.inj hc
    rw [isLowSurrogate_ofNat]
    exact isLowSurrogate_of_isHighSurrogate hhigh

/-- A code unit after the first half of a pair or nothing. -/
theorem ReadAfter.acceptUnit (hp : ∀ high ∈ pending, isHighSurrogate high = true) (unit : Nat)
    (h : ReadAfter (acceptUnit pending unit).2 s) :
    ReadAfter pending ((acceptUnit pending unit).1 ++ s) := by
  unfold Json.acceptUnit at h ⊢
  by_cases hunit : isHighSurrogate unit = true
  · rw [if_pos hunit] at h ⊢
    exact .loneHalf_append hp h.1 fun _ => h.2 rfl
  · rw [if_neg hunit] at h ⊢
    have hcons : PairFree (CodePoint.ofNat unit :: s) := by
      refine pairFree_cons h.1 fun hhigh => ?_
      rw [isHighSurrogate_ofNat] at hhigh
      exact absurd hhigh hunit
    cases pending with
    | none => exact ⟨hcons, fun hnone => by cases hnone⟩
    | some high =>
      dsimp only
      by_cases hlow : isLowSurrogate unit = true
      · rw [if_pos hlow]
        refine ⟨pairFree_cons h.1 fun hhigh => ?_, fun _ c hc => ?_⟩
        · rw [isHighSurrogate_char] at hhigh
          cases hhigh
        · obtain rfl : CodePoint.char (charOfPair high unit) = c := Option.some.inj hc
          exact isLowSurrogate_char _
      · rw [if_neg hlow]
        refine ReadAfter.loneHalf_append (s := CodePoint.ofNat unit :: s) hp hcons fun _ c hc => ?_
        obtain rfl : CodePoint.ofNat unit = c := Option.some.inj hc
        rw [isLowSurrogate_ofNat]
        exact Bool.eq_false_iff.2 hlow

theorem isHighSurrogate_of_acceptUnit {unit high : Nat} (h : high ∈ (acceptUnit pending unit).2) :
    isHighSurrogate high = true := by
  unfold Json.acceptUnit at h
  by_cases hunit : isHighSurrogate unit = true
  · rw [if_pos hunit] at h
    obtain rfl : unit = high := Option.some.inj h
    exact hunit
  · rw [if_neg hunit] at h
    cases pending <;> cases h

/-- A code point that is no surrogate, after the first half of a pair or nothing. -/
theorem ReadAfter.char (hp : ∀ high ∈ pending, isHighSurrogate high = true) (c : Char)
    (h : PairFree s) : ReadAfter pending (loneHalf pending ++ .char c :: s) := by
  have hcons : PairFree (.char c :: s) := by
    refine pairFree_cons h fun hhigh => ?_
    rw [isHighSurrogate_char] at hhigh
    cases hhigh
  refine .loneHalf_append hp hcons fun _ d hd => ?_
  obtain rfl : CodePoint.char c = d := Option.some.inj hd
  exact isLowSurrogate_char c

end

/-! ### Readers -/

section

variable {ε ε' α β : Type} {p : α → Prop} {q : β → Prop} {t : Text}

theorem SurrogateFree.of_suffix {left : Text} (h : SurrogateFree t) (hs : left <:+ t) :
    SurrogateFree left := fun c hc => h c (hs.subset hc)

theorem SurrogateFree.skipSpace (h : SurrogateFree t) : SurrogateFree (skipSpace t) :=
  h.of_suffix (skipSpace_suffix t)

theorem SurrogateFree.tail {c : CodePoint} (h : SurrogateFree (c :: t)) : SurrogateFree t :=
  h.of_suffix (List.suffix_cons c t)

theorem YieldsPlain.map {r : Except ε (α × Text)} {f : α × Text → β × Text} (h : YieldsPlain p r)
    (hf : ∀ x, p x.1 → q (f x).1 ∧ (f x).2 = x.2) : YieldsPlain q (r.map f) := by
  match r, h with
  | .ok x, h =>
    obtain ⟨hq, hleft⟩ := hf x h.1
    show q (f x).1 ∧ SurrogateFree (f x).2
    rw [hleft]
    exact ⟨hq, h.2⟩
  | .error _, _ => trivial

theorem YieldsPlain.bind {r : Except ε (α × Text)} {f : α × Text → Except ε (β × Text)}
    (h : YieldsPlain p r)
    (hf : ∀ a left, p a → SurrogateFree left → YieldsPlain q (f (a, left))) :
    YieldsPlain q (r >>= f) := by
  match r, h with
  | .ok (a, left), h => exact hf a left h.1 h.2
  | .error _, _ => trivial

theorem YieldsPlain.mapError {r : Except ε (α × Text)} (h : YieldsPlain p r) (f : ε → ε') :
    YieldsPlain p (r.mapError f) := by
  match r, h with
  | .ok _, h => exact h
  | .error _, _ => trivial

theorem exists_char_of_escaped? {c e : CodePoint} (h : escaped? c = some e) :
    ∃ d : Char, e = .char d := by
  unfold escaped? at h
  split at h <;> cases h <;> exact ⟨_, rfl⟩

theorem yieldsPlain_readString (pending : Option Nat) (ht : SurrogateFree t)
    (hp : ∀ high ∈ pending, isHighSurrogate high = true) :
    YieldsPlain (ReadAfter pending) (readString pending t) := by
  fun_induction readString pending t with
  | case2 pending rest =>
    refine ⟨?_, ht.tail⟩
    have hnil : ReadAfter pending (loneHalf pending ++ []) :=
      .loneHalf_append hp List.isChain_nil fun _ _ hc => by cases hc
    rwa [List.append_nil] at hnil
  | case4 pending a b c d rest unit hunit hrest done pending' hunits ih =>
    have hleft : SurrogateFree rest :=
      ht.of_suffix (List.suffix_append [CodePoint.char '\\', .char 'u', a, b, c, d] rest)
    have hunits₁ : (acceptUnit pending unit).1 = done := by rw [hunits]
    have hunits₂ : (acceptUnit pending unit).2 = pending' := by rw [hunits]
    refine (ih hleft fun high hhigh => ?_).map fun x hx => ⟨?_, rfl⟩
    · rw [← hunits₂] at hhigh
      exact isHighSurrogate_of_acceptUnit hhigh
    · rw [← hunits₂] at hx
      rw [← hunits₁]
      exact .acceptUnit hp unit hx
  | case7 pending c rest _ _ e he ih =>
    have hleft : SurrogateFree rest :=
      ht.of_suffix (List.suffix_append [CodePoint.char '\\', c] rest)
    obtain ⟨e, rfl⟩ := exists_char_of_escaped? he
    exact (ih hleft fun _ hnone => by cases hnone).map fun x hx => ⟨.char hp e hx.1, rfl⟩
  | case11 pending c rest _ _ _ _ _ hc ih =>
    cases c with
    | surrogate index => cases ht (.surrogate index) List.mem_cons_self
    | char c =>
      exact (ih ht.tail fun _ hnone => by cases hnone).map fun x hx => ⟨.char hp c hx.1, rfl⟩
  | _ => trivial

theorem yieldsPlain_readText (ht : SurrogateFree t) : YieldsPlain Json.PairFree (readText t) := by
  rw [readText_eq]
  refine YieldsPlain.mapError ?_ _
  have hread := yieldsPlain_readString none ht fun _ hnone => by cases hnone
  cases hr : readString none t with
  | error stop => trivial
  | ok x =>
    rw [hr] at hread
    exact ⟨hread.1.1, hread.2⟩

end

/-! ### Values -/

theorem Value.pairFree_of_isScalar {v : Value} (h : v.IsScalar) : v.PairFree := by
  obtain ⟨htext, hitems, hmembers⟩ := h
  exact .intro (by simp [htext]) (by simp [hitems]) (by simp [hmembers]) (by simp [hmembers])

theorem Value.pairFree_string {s : Text} (h : Json.PairFree s) : (Value.string s).PairFree := by
  refine .intro (fun t ht => ?_) (by simp [Value.items]) (by simp [Value.members])
    (by simp [Value.members])
  obtain rfl : s = t := Option.some.inj ht
  exact h

theorem Value.pairFree_array {items : List Value} (h : ∀ v ∈ items, v.PairFree) :
    (Value.array items).PairFree :=
  .intro (by simp [Value.text?]) h (by simp [Value.members]) (by simp [Value.members])

theorem Value.pairFree_put {members : Members} {v : Value} {key : Text}
    (h : (Value.object members).PairFree) (hkey : Json.PairFree key) (hv : v.PairFree) :
    (Value.object (members.put key v)).PairFree := by
  obtain ⟨-, -, hkeys, hmembers⟩ := h
  refine .intro (by simp [Value.text?]) (by simp [Value.items]) (fun m hm => ?_) fun m hm => ?_
  · rcases Members.mem_put hm with rfl | hm
    · exact hkey
    · exact hkeys m hm
  · rcases Members.mem_put hm with rfl | hm
    · exact hv
    · exact hmembers m hm

theorem yieldsPlain_readScalar {t : Text} (ht : SurrogateFree t) :
    YieldsPlain Value.PairFree (readScalar t) := by
  have hscalar := isScalar_of_readScalar t
  have hleft := readsIn_readScalar t
  cases hr : readScalar t with
  | error stop => trivial
  | ok x =>
    rw [hr] at hscalar hleft
    exact ⟨Value.pairFree_of_isScalar hscalar, ht.of_suffix hleft⟩

section

variable {fuel : Nat}

theorem yieldsPlain_readValue_succ
    (hmembers : ∀ depth members t, (Value.object members).PairFree → SurrogateFree t →
      YieldsPlain (fun ms => (Value.object ms).PairFree) (readMembers fuel depth members t))
    (hitems : ∀ depth t, SurrogateFree t →
      YieldsPlain (fun vs => ∀ v ∈ vs, v.PairFree) (readItems fuel depth t))
    (depth : Nat) {t : Text} (ht : SurrogateFree t) :
    YieldsPlain Value.PairFree (readValue (fuel + 1) depth t) := by
  have hempty : (Value.object []).PairFree := Value.pairFree_of_isScalar ⟨rfl, rfl, rfl⟩
  unfold readValue
  split
  · exact (yieldsPlain_readText ht.tail).map fun x hx => ⟨Value.pairFree_string hx, rfl⟩
  · split
    · trivial
    · split
      · rename_i left hleft
        exact ⟨hempty, (hleft ▸ ht.tail.skipSpace).tail⟩
      · exact (hmembers _ _ _ hempty ht.tail.skipSpace).map fun _ h => ⟨h, rfl⟩
  · split
    · trivial
    · split
      · rename_i left hleft
        exact ⟨Value.pairFree_array (by simp), (hleft ▸ ht.tail.skipSpace).tail⟩
      · exact (hitems _ _ ht.tail.skipSpace).map fun _ h => ⟨Value.pairFree_array h, rfl⟩
  · exact yieldsPlain_readScalar ht

theorem yieldsPlain_readMembers_succ
    (hvalue : ∀ depth t, SurrogateFree t → YieldsPlain Value.PairFree (readValue fuel depth t))
    (hmembers : ∀ depth members t, (Value.object members).PairFree → SurrogateFree t →
      YieldsPlain (fun ms => (Value.object ms).PairFree) (readMembers fuel depth members t))
    (depth : Nat) {members : Members} {t : Text} (h : (Value.object members).PairFree)
    (ht : SurrogateFree t) : YieldsPlain (fun ms => (Value.object ms).PairFree)
      (readMembers (fuel + 1) depth members t) := by
  unfold readMembers
  split
  · refine (yieldsPlain_readText ht.tail).bind fun key left hkey hleft => ?_
    have hspace := hleft.skipSpace
    dsimp only
    split
    · rename_i left' heq
      rw [heq] at hspace
      refine (hvalue _ _ hspace.tail.skipSpace).bind fun v left hv hleft => ?_
      have hput := Value.pairFree_put h hkey hv
      have hspace := hleft.skipSpace
      dsimp only
      split
      · rename_i left' heq
        rw [heq] at hspace
        exact ⟨hput, hspace.tail⟩
      · rename_i left' heq
        rw [heq] at hspace
        exact hmembers _ _ _ hput hspace.tail.skipSpace
      · trivial
    · trivial
  · trivial

theorem yieldsPlain_readItems_succ
    (hvalue : ∀ depth t, SurrogateFree t → YieldsPlain Value.PairFree (readValue fuel depth t))
    (hitems : ∀ depth t, SurrogateFree t →
      YieldsPlain (fun vs => ∀ v ∈ vs, v.PairFree) (readItems fuel depth t))
    (depth : Nat) {t : Text} (ht : SurrogateFree t) :
    YieldsPlain (fun vs => ∀ v ∈ vs, v.PairFree) (readItems (fuel + 1) depth t) := by
  unfold readItems
  refine (hvalue depth t ht).bind fun v left hv hleft => ?_
  have hspace := hleft.skipSpace
  dsimp only
  split
  · rename_i left' heq
    rw [heq] at hspace
    exact ⟨List.forall_mem_singleton.2 hv, hspace.tail⟩
  · rename_i left' heq
    rw [heq] at hspace
    exact (hitems _ _ hspace.tail.skipSpace).map fun _ hvs =>
      ⟨List.forall_mem_cons.2 ⟨hv, hvs⟩, rfl⟩
  · trivial

/-- From a text without surrogates no reader yields the first half of a pair before a second. -/
theorem yieldsPlain_readers (fuel : Nat) :
    (∀ depth t, SurrogateFree t → YieldsPlain Value.PairFree (readValue fuel depth t)) ∧
    (∀ depth members t, (Value.object members).PairFree → SurrogateFree t →
      YieldsPlain (fun ms => (Value.object ms).PairFree) (readMembers fuel depth members t)) ∧
    ∀ depth t, SurrogateFree t →
      YieldsPlain (fun vs => ∀ v ∈ vs, v.PairFree) (readItems fuel depth t) := by
  induction fuel with
  | zero => exact ⟨fun _ _ _ => trivial, fun _ _ _ _ _ => trivial, fun _ _ _ => trivial⟩
  | succ fuel ih =>
    obtain ⟨hvalue, hmembers, hitems⟩ := ih
    exact ⟨fun depth _ => yieldsPlain_readValue_succ hmembers hitems depth,
      fun depth _ _ => yieldsPlain_readMembers_succ hvalue hmembers depth,
      fun depth _ => yieldsPlain_readItems_succ hvalue hitems depth⟩

end

theorem pairFree_of_readAll {t : Text} {v : Value} (ht : SurrogateFree t) (h : readAll t = .ok v) :
    v.PairFree := by
  obtain ⟨left, hvalue, -⟩ := readAll_eq_ok_iff.1 h
  have hyields := (yieldsPlain_readers (2 * t.length + 2)).1 depthLimit _ ht.skipSpace
  rw [hvalue] at hyields
  exact hyields.1

end ServiceContract.Json
