import ServiceContract.Proofs.Draft.OfJson
import ServiceContract.Proofs.Service.Build
import ServiceContract.Proofs.Text.Blank
import ServiceContract.Proofs.UrlKey
import ServiceContract.Proofs.Validation.Clean

/-!
# Default paths

A resource that names no path has the url key of a plural for its path.  The plural is that of the
key which the resource stands under, blanks at its ends included, while the service keeps the plural
of the type that the key names, without them.  Whether both have one url key depends on what the
plural looks at, the last two characters: they have unless blanks follow a letter or digit, or stand
before a lone `y` (`generate_plural_trim_iff`).  So the default paths of an accepted document agree
with the plurals of its service under keys without such blanks, and under those only
(`accepted_default_paths`).
-/

namespace ServiceContract

theorem CodePoint.isAlphanum_stretches {c : CodePoint} (h : c.isAlphanum = true) :
    (65 ≤ c.toNat ∧ c.toNat ≤ 90) ∨ (97 ≤ c.toNat ∧ c.toNat ≤ 122) ∨
      (48 ≤ c.toNat ∧ c.toNat ≤ 57) := by
  cases c with
  | surrogate index => cases h
  | char c =>
    change (c.isUpper || c.isLower || c.isDigit) = true at h
    rw [Bool.or_eq_true, Bool.or_eq_true, or_assoc] at h
    exact h.imp of_decide_eq_true (Or.imp Char.toNat_of_isLower Char.toNat_of_isDigit)

theorem CodePoint.isBlank_of_isAlphanum {c : CodePoint} (h : c.isAlphanum = true) :
    c.isBlank = false := by
  have := CodePoint.isAlphanum_stretches h
  simp only [CodePoint.isBlank, Bool.or_eq_false_iff, Bool.and_eq_false_iff,
    decide_eq_false_iff_not, beq_eq_false_iff_ne]
  omega

theorem CodePoint.isAlphanum_of_isBlank {c : CodePoint} (h : c.isBlank = true) :
    c.isAlphanum = false := by
  by_contra halphanum
  rw [Bool.not_eq_false] at halphanum
  rw [CodePoint.isBlank_of_isAlphanum halphanum] at h
  cases h

namespace UrlKey

variable {t : Text}

/-! ### Words next to what belongs to none -/

theorem words_append_of_forall {before : Text} (h : ∀ c ∈ before, c.isAlphanum = false)
    (t : Text) : words (before ++ t) = words t := by
  induction before with
  | nil => rfl
  | cons c before ih =>
    obtain ⟨hc, hbefore⟩ := List.forall_mem_cons.1 h
    rw [List.cons_append, words_cons hc, ih hbefore]

/-- A text whose last character belongs to no word. -/
def EndsOpen (t : Text) : Prop := ∀ c ∈ t.getLast?, c.isAlphanum = false

theorem words_append_of_endsOpen (h : EndsOpen t) (rest : Text) :
    words (t ++ rest) = words t ++ words rest := by
  rcases List.eq_nil_or_concat t with rfl | ⟨start, c, rfl⟩
  · rfl
  · have hc : c.isAlphanum = false := h c (by simp)
    rw [List.concat_eq_append, List.append_assoc, List.singleton_append, words_append_cons hc,
      words_append_cons hc, words, List.append_nil]

theorem forall_of_isEmptyOrBlank (h : t.isEmptyOrBlank = true) : ∀ c ∈ t, c.isAlphanum = false :=
  fun c hc => CodePoint.isAlphanum_of_isBlank (List.all_eq_true.1 h c hc)

theorem words_of_padded {inner : Text} (h : Text.Padded inner t) : words t = words inner := by
  obtain ⟨before, after, hbefore, hafter, rfl⟩ := h
  rw [List.append_assoc, words_append_of_forall (forall_of_isEmptyOrBlank hbefore)]
  cases after with
  | nil => rw [List.append_nil]
  | cons c rest =>
    obtain ⟨hc, hrest⟩ := List.forall_mem_cons.1 (forall_of_isEmptyOrBlank hafter)
    rw [words_append_cons hc, words_eq_nil_iff.2 hrest, List.append_nil]

theorem eq_append_of_padded {inner : Text} (h : Text.Padded inner t) {c : CodePoint}
    (hlast : t.getLast? = some c) (hc : c.isBlank = false) : ∃ before : Text,
      before.isEmptyOrBlank = true ∧ t = before ++ inner ∧ inner.getLast? = some c := by
  obtain ⟨before, after, hbefore, hafter, rfl⟩ := h
  have hnot : ∀ blanks : Text, blanks.isEmptyOrBlank = true → c ∉ blanks := by
    intro blanks hblanks hmem
    rw [List.all_eq_true.1 hblanks c hmem] at hc
    cases hc
  rw [List.append_assoc, List.getLast?_append] at hlast
  cases hback : (inner ++ after).getLast? with
  | none =>
    rw [hback] at hlast
    exact absurd (List.mem_of_getLast? hlast) (hnot before hbefore)
  | some d =>
    rw [hback] at hlast
    obtain rfl := Option.some.inj hlast
    rcases List.eq_nil_or_concat after with rfl | ⟨blanks, e, rfl⟩
    · rw [List.append_nil] at hback
      exact ⟨before, hbefore, List.append_nil _, hback⟩
    · rw [List.concat_eq_append, ← List.append_assoc, List.getLast?_concat] at hback
      obtain rfl := Option.some.inj hback
      exact absurd (by simp) (hnot _ hafter)

/-! ### The end of a key -/

/-- A small letter or digit stays in the word of the letter or digit before it. -/
theorem exists_words_append_pair {c d : CodePoint} (hc : c.isAlphanum = true)
    (hd : d.isLower = true) (t : Text) :
    ∃ before word, words (t ++ [c, d]) = before ++ [word ++ [c, d]] := by
  obtain ⟨hd, hupper, -⟩ := CodePoint.of_isLower_or_isDigit (Or.inl hd)
  induction t with
  | nil =>
    refine ⟨[], [], ?_⟩
    simp [words, joins, startsWord, hc, hd, hupper]
  | cons a t ih =>
    obtain ⟨before, word, hwords⟩ := ih
    rw [List.cons_append]
    by_cases ha : a.isAlphanum = true
    · cases hjoins : joins a (t ++ [c, d]) with
      | true =>
        obtain ⟨_, _, hrest, hcons⟩ := words_cons_of_joins ha hjoins
        rw [hwords] at hrest
        cases before with
        | nil =>
          obtain ⟨rfl, rfl⟩ := List.cons.inj hrest
          exact ⟨[], a :: word, hcons⟩
        | cons first before =>
          obtain ⟨rfl, rfl⟩ := List.cons.inj hrest
          exact ⟨(a :: first) :: before, word, hcons⟩
      | false =>
        refine ⟨[a] :: before, word, ?_⟩
        rw [words_cons_of_not_joins ha hjoins, hwords, List.cons_append]
    · refine ⟨before, word, ?_⟩
      rw [words_cons (by simpa using ha), hwords]

theorem suffix_join (separator last : Text) (texts : List Text) :
    last <:+ Text.join separator (texts ++ [last]) := by
  induction texts with
  | nil =>
    rewrite [List.nil_append, Text.join, List.intercalate_singleton]
    exact List.suffix_rfl
  | cons first texts ih =>
    rw [List.cons_append, Text.join, List.intercalate_cons_of_ne_nil (by simp)]
    exact ih.trans (List.suffix_append _ _)

theorem separator_suffix_join {texts : List Text} (h : texts ≠ []) (separator last : Text) :
    separator ++ last <:+ Text.join separator (texts ++ [last]) := by
  induction texts with
  | nil => exact absurd rfl h
  | cons first texts ih =>
    rw [List.cons_append, Text.join, List.intercalate_cons_of_ne_nil (by simp)]
    by_cases hnil : texts = []
    · rw [hnil, List.nil_append, List.intercalate_singleton, List.append_assoc]
      exact List.suffix_append _ _
    · exact (ih hnil).trans (List.suffix_append _ _)

theorem suffix_generate {c d : CodePoint} (hc : c.isAlphanum = true) (hd : d.isLower = true)
    (t : Text) : [c.toLower, d] <:+ generate (t ++ [c, d]) := by
  obtain ⟨before, word, hwords⟩ := exists_words_append_pair hc hd t
  obtain ⟨-, -, hlower⟩ := CodePoint.of_isLower_or_isDigit (Or.inl hd)
  unfold generate
  rw [hwords, List.map_append, List.map_singleton]
  refine List.IsSuffix.trans ?_ (suffix_join _ _ _)
  rw [Text.toLower, List.map_append, List.map_cons, List.map_singleton, hlower]
  exact List.suffix_append _ _

/-! ### Plurals -/

/-- A plural depends on the last two characters. -/
theorem plural_append_pair (t : Text) (b c : CodePoint) :
    plural (t ++ [b, c]) = t ++ plural [b, c] := by
  have hreverse : (t ++ [b, c]).reverse = c :: b :: t.reverse := by simp
  unfold plural
  rw [hreverse, show ([b, c] : Text).reverse = [c, b] from rfl]
  split
  case h_1 before start heq =>
    obtain ⟨rfl, rfl, rfl⟩ : c = .char 'y' ∧ b = before ∧ t.reverse = start := by simpa using heq
    show (if _ then _ else _) = t ++ if _ then _ else _
    split_ifs <;> simp
  all_goals simp_all

theorem plural_of_endsOpen (h : EndsOpen t) : plural t = t ++ "s" := by
  rcases List.eq_nil_or_concat t with rfl | ⟨start, c, rfl⟩
  · rfl
  · have hc : ∀ d : Char, d.isAlphanum = true → c ≠ .char d := by
      rintro d hd rfl
      have hopen : d.isAlphanum = false := h (.char d) (by simp)
      rw [hd] at hopen
      cases hopen
    unfold plural
    rw [List.concat_eq_append, List.reverse_concat]
    split
    case h_7 => rfl
    all_goals
      rename_i heq
      exact absurd (List.cons.inj heq).1 (hc _ (by decide))

/-- A blank before a single character, unless that is `y`, does not change the plural. -/
theorem plural_pair_of_isBlank {b c : CodePoint} (hb : b.isBlank = true) (hc : c ≠ .char 'y') :
    plural [b, c] = b :: plural [c] := by
  have hne : ∀ d : Char, (CodePoint.char d).isBlank = false → b ≠ .char d := by
    rintro d hd rfl
    rw [hd] at hb
    cases hb
  have hbc := hne 'c' (by decide)
  have hbs := hne 's' (by decide)
  unfold plural
  rw [show ([b, c] : Text).reverse = [c, b] from rfl, List.reverse_singleton]
  split <;> simp_all

theorem plural_blank_append {before : Text} (h : before.isEmptyOrBlank = true) (hne : t ≠ [])
    (hy : t = "y" → before = []) : plural (before ++ t) = before ++ plural t := by
  rcases List.eq_nil_or_concat t with rfl | ⟨start, c, rfl⟩
  · exact absurd rfl hne
  rw [List.concat_eq_append] at hy ⊢
  rcases List.eq_nil_or_concat start with rfl | ⟨start, b, rfl⟩
  · -- a single character meets the last blank
    rcases List.eq_nil_or_concat before with rfl | ⟨blanks, b, rfl⟩
    · rfl
    · have hb : b.isBlank = true := List.all_eq_true.1 h b (by simp)
      have hc : c ≠ .char 'y' := by
        rintro rfl
        exact absurd (hy rfl) (by simp)
      rw [List.nil_append, List.concat_eq_append, List.append_assoc, List.singleton_append,
        plural_append_pair, plural_pair_of_isBlank hb hc, List.append_assoc, List.singleton_append]
  · rw [List.concat_eq_append, List.append_assoc, List.singleton_append, plural_append_pair,
      ← List.append_assoc, plural_append_pair, List.append_assoc]

/-- The plural of what ends in a letter or digit ends in `s` after a letter or digit. -/
theorem exists_plural_eq {c : CodePoint} (hc : c.isAlphanum = true) (start : Text) :
    ∃ before b, b.isAlphanum = true ∧ plural (start ++ [c]) = before ++ [b, .char 's'] := by
  have hs : (start ++ [c]) ++ ("s" : Text) = start ++ [c, .char 's'] := List.append_assoc _ _ _
  have hies (t : Text) : t ++ ("ies" : Text) = (t ++ [.char 'i']) ++ [.char 'e', .char 's'] :=
    (List.append_assoc t [.char 'i'] _).symm
  unfold plural
  split
  case h_1 before rest heq =>
    split_ifs
    · exact ⟨start, c, hc, hs⟩
    · exact ⟨_, .char 'e', by decide, hies _⟩
  case h_7 => exact ⟨start, c, hc, hs⟩
  all_goals exact ⟨start ++ [c], .char 'e', by decide, rfl⟩

/-! ### Plurals of names with blanks around -/

/-- Trimming the name leaves alone what its plural looks at: a letter or digit at the end, and what
stands before a lone `y`. -/
structure KeepsPlural (name : Text) : Prop where
  last : ∀ c ∈ name.trim.getLast?, c.isAlphanum = true → name.getLast? = some c
  alone : name.trim = "y" → name = "y"

theorem keepsPlural_of_trim_eq (h : t.trim = t) : KeepsPlural t where
  last c hc _ := by rwa [h] at hc
  alone hy := by rwa [h] at hy

theorem words_plural_of_endsOpen (h : EndsOpen t) :
    words (plural t) = words t ++ [("s" : Text)] := by
  rw [plural_of_endsOpen h, words_append_of_endsOpen h]
  rfl

/-- A plural with an `s` that is a word of its own. -/
theorem generate_plural_ne {inner : Text} {c : CodePoint} (hc : c.isAlphanum = true)
    (hlast : inner.getLast? = some c) (hopen : EndsOpen t) (hwords : words t = words inner) :
    generate (plural t) ≠ generate (plural inner) := by
  obtain ⟨start, rfl⟩ := List.getLast?_eq_some_iff.1 hlast
  have hne : (words (start ++ [c])).map Text.toLower ≠ [] := by
    rw [ne_eq, List.map_eq_nil_iff, words_eq_nil_iff]
    intro hnone
    rw [hnone c (by simp)] at hc
    cases hc
  have hword : ("-" : Text) ++ ("s" : Text) <:+ generate (plural t) := by
    unfold generate
    rw [words_plural_of_endsOpen hopen, hwords, List.map_append]
    exact separator_suffix_join hne _ _
  obtain ⟨before, b, hb, hplural⟩ := exists_plural_eq hc start
  have hletter : [b.toLower, .char 's'] <:+ generate (plural (start ++ [c])) := by
    rw [hplural]
    exact suffix_generate hb (by decide) before
  intro heq
  rw [heq] at hword
  -- the character before the `s` is a hyphen on one side and a letter or digit on the other
  have hsame : ("-" : Text) ++ ("s" : Text) = [b.toLower, .char 's'] :=
    (List.suffix_of_suffix_length_le hword hletter le_rfl).eq_of_length rfl
  have hhyphen : .char '-' = b.toLower := (List.cons.inj hsame).1
  have hlower := CodePoint.toLower_of_isAlphanum hb
  rw [← hhyphen] at hlower
  revert hlower
  decide

/-- A `y` after a blank does not stand after a vowel. -/
theorem generate_plural_blank_y {before : Text} (h : before.isEmptyOrBlank = true)
    (hne : before ≠ []) : generate (plural (before ++ "y")) = "ies" := by
  rcases List.eq_nil_or_concat before with rfl | ⟨blanks, b, rfl⟩
  · exact absurd rfl hne
  · rw [List.concat_eq_append] at h ⊢
    have hb : b.isBlank = true := List.all_eq_true.1 h b (by simp)
    have hvowel : ("aeiou" : Text).contains b = false := by
      rw [List.contains_eq_mem, decide_eq_false_iff_not]
      intro hmem
      have hplain : ∀ v ∈ ("aeiou" : Text), v.isBlank = false := by decide
      rw [hplain b hmem] at hb
      cases hb
    have hplural : plural [b, .char 'y'] = [b] ++ "ies" := by
      show (if ("aeiou" : Text).contains b then _ else _) = _
      rw [hvowel]
      rfl
    have hpair : blanks ++ [b] ++ ("y" : Text) = blanks ++ [b, .char 'y'] :=
      List.append_assoc _ _ _
    rw [hpair, plural_append_pair, hplural, ← List.append_assoc, generate,
      words_append_of_forall (forall_of_isEmptyOrBlank h)]
    decide

theorem generate_plural_blank_append_iff {before inner : Text} (h : before.isEmptyOrBlank = true)
    (hne : inner ≠ []) : generate (plural (before ++ inner)) = generate (plural inner) ↔
      (inner = "y" → before = []) := by
  constructor
  · intro hsame hy
    by_contra hbefore
    rw [hy, generate_plural_blank_y h hbefore] at hsame
    revert hsame
    decide
  · intro hy
    rw [plural_blank_append h hne hy, generate,
      words_append_of_forall (forall_of_isEmptyOrBlank h), ← generate]

/-- The plural of a name and that of the name without blanks around it have the same url key
exactly when trimming leaves alone what the plural looks at. -/
theorem generate_plural_trim_iff (name : Text) :
    generate (plural name) = generate (plural name.trim) ↔ KeepsPlural name := by
  have hpadded := Text.padded_trim name
  have hwords := words_of_padded hpadded
  by_cases hopen : EndsOpen name
  · by_cases hinner : EndsOpen name.trim
    · have hsame : generate (plural name) = generate (plural name.trim) := by
        rw [generate, words_plural_of_endsOpen hopen, hwords, ← words_plural_of_endsOpen hinner,
          ← generate]
      refine iff_of_true hsame ⟨fun c hc halphanum => ?_, fun hy => ?_⟩
      · rw [hinner c hc] at halphanum
        cases halphanum
      · rw [hy] at hinner
        exact absurd (hinner (.char 'y') rfl) (by decide)
    · unfold EndsOpen at hinner
      push Not at hinner
      obtain ⟨c, hc, halphanum⟩ := hinner
      rw [ne_eq, Bool.not_eq_false] at halphanum
      refine iff_of_false (generate_plural_ne halphanum hc hopen hwords) fun hkeeps => ?_
      rw [hopen c (hkeeps.last c hc halphanum)] at halphanum
      cases halphanum
  · unfold EndsOpen at hopen
    push Not at hopen
    obtain ⟨c, hc, halphanum⟩ := hopen
    rw [ne_eq, Bool.not_eq_false] at halphanum
    obtain ⟨before, hbefore, hname, hlast⟩ :=
      eq_append_of_padded hpadded hc (CodePoint.isBlank_of_isAlphanum halphanum)
    have hne : name.trim ≠ [] := by
      rintro hnil
      rw [hnil] at hlast
      cases hlast
    have hiff := generate_plural_blank_append_iff hbefore hne
    rw [← hname] at hiff
    rw [hiff]
    constructor
    · intro hy
      refine ⟨fun d hd _ => ?_, fun hlone => ?_⟩
      · rw [hc, ← hlast]
        exact hd
      · rw [hname, hy hlone, hlone, List.nil_append]
    · intro hkeeps hlone
      have hsame := hkeeps.alone hlone
      rw [hname, hlone] at hsame
      exact List.append_cancel_right (hsame.trans (List.nil_append _).symm)

end UrlKey

/-! ### Accepted documents -/

namespace Service

open Outcome

/-- A resource of a service against the member of the document that it is read from: the default of
its path. -/
structure HasDefaultPath (member : Text × Json.Members) (r : Resource) : Prop where
  type : r.type = member.1.trim
  plural : r.plural = UrlKey.plural r.type
  path : Draft.textOf member.2 "path" = none →
    r.path = "/" ++ UrlKey.generate (UrlKey.plural member.1)
  agrees_iff : Draft.textOf member.2 "path" = none →
    (r.path = "/" ++ UrlKey.generate r.plural ↔ UrlKey.KeepsPlural member.1)
  plain : Draft.textOf member.2 "path" = none → member.1.trim = member.1 →
    r.path = "/" ++ UrlKey.generate r.plural

theorem hasDefaultPath {member : Text × Json.Members} {r : Draft.Resource} {r' : Resource}
    (hr : Draft.resourceOf member.1 member.2 = .ok r) (hr' : buildResource r = .ok r') :
    HasDefaultPath member r' := by
  obtain ⟨_, -, rfl⟩ := Draft.resourceOf_eq_ok_iff.1 hr
  obtain ⟨_, -, rfl⟩ := buildResource_eq_ok_iff.1 hr'
  have hpath (hnone : Draft.textOf member.2 "path" = none) :
      Draft.resourcePathOf member.1 member.2 =
        "/" ++ UrlKey.generate (UrlKey.plural member.1) := by
    rw [Draft.resourcePathOf, hnone, Option.getD_none]
  have hiff (hnone : Draft.textOf member.2 "path" = none) :
      Draft.resourcePathOf member.1 member.2 =
        "/" ++ UrlKey.generate (UrlKey.plural member.1.trim) ↔ UrlKey.KeepsPlural member.1 := by
    rw [hpath hnone, List.append_cancel_left_eq]
    exact UrlKey.generate_plural_trim_iff member.1
  exact ⟨rfl, rfl, hpath, hiff, fun hnone htrim =>
    (hiff hnone).2 (UrlKey.keepsPlural_of_trim_eq htrim)⟩

/-- The resources of an accepted document, in order, with their default paths. -/
theorem accepted_default_paths {c : Configuration} {fetch : Fetch} {text : Text} {s : Service}
    (h : (validate c fetch text).outcome = .ok (.accepted s)) :
    ∃ members, readDocument text = .ok members ∧
      List.Forall₂ HasDefaultPath (Draft.namedObjectsOf members "resources") s.resources := by
  obtain ⟨members, d, hmembers, hd, -, -, hbuild, -⟩ := validate_eq_accepted_iff.1 h
  obtain ⟨_, -, resources, hresources, rfl⟩ := Draft.ofJson_eq_ok_iff.1 hd
  obtain ⟨_, _, _, _, _, _, _, _, -, -, -, -, -, -, hbuilt, -, rfl⟩ := build_eq_ok_iff.1 hbuild
  exact ⟨members, hmembers, forall₂_of_mapM_mapM hresources hbuilt fun _ _ _ _ => hasDefaultPath⟩

/-- A document whose resources stand under keys with a blank at one end. -/
def itemsDocument : Text :=
  "\x7b\"name\":\"Pets\",\"models\":\x7b\"item\":\x7b\x7d,\"pet\":\x7b\x7d\x7d," ++
    "\"resources\":\x7b\"item \":\x7b\x7d,\" pet\":\x7b\x7d\x7d\x7d"

/-- The service that the document describes. -/
def itemsService : Service where
  name := "Pets"
  key := "pets"
  nameSpace := "com.example.pets.v0"
  organization := "example"
  version := "0.0.1-dev"
  description := none
  baseUrl := none
  imports := []
  headers := []
  enums := []
  unions := []
  models := [⟨"item", "items", none, []⟩, ⟨"pet", "pets", none, []⟩]
  resources := [⟨"item", "items", "/item-s", none, []⟩, ⟨"pet", "pets", "/pets", none, []⟩]

theorem validate_itemsDocument :
    (validate {} unreachable itemsDocument).outcome = .ok (.accepted itemsService) := by
  decide +kernel

theorem accepted_default_paths_items :
    (validate {} unreachable itemsDocument).outcome = .ok (.accepted itemsService) ∧
    ∃ members, readDocument itemsDocument = .ok members ∧
      List.Forall₂ HasDefaultPath (Draft.namedObjectsOf members "resources")
        itemsService.resources :=
  ⟨validate_itemsDocument, accepted_default_paths validate_itemsDocument⟩

/-- Not every default path is that of the plural which the service keeps. -/
theorem exists_default_path_not_of_plural :
    ∃ members, readDocument itemsDocument = .ok members ∧
      (∀ member ∈ Draft.namedObjectsOf members "resources",
        Draft.textOf member.2 "path" = none) ∧
      ∃ s, (validate {} unreachable itemsDocument).outcome = .ok (.accepted s) ∧
        ∃ r ∈ s.resources, r.path ≠ "/" ++ UrlKey.generate r.plural := by
  have hread : readDocument itemsDocument = .ok [("name", .string "Pets"),
      ("models", .object [("item", .object []), ("pet", .object [])]),
      ("resources", .object [("item ", .object []), (" pet", .object [])])] := by cbv
  refine ⟨_, hread, ?_, itemsService, validate_itemsDocument, _, List.mem_cons_self, by decide⟩
  intro member hmember
  rcases List.mem_pair.1 hmember with rfl | rfl
  · rfl
  · rfl

end Service

end ServiceContract
