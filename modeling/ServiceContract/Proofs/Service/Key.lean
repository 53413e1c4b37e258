import ServiceContract.Proofs.Draft.OfJson
import ServiceContract.Proofs.Rule.Key
import ServiceContract.Proofs.Validation.Clean

/-!
# Keys of accepted services

A document may give the key of its service; a text that is there and not empty is taken as it is,
and the rule for keys asks of it to be the url key of itself.  Otherwise the key is the url key of
the name.  Nothing asks of a name to have a letter or a digit, so the key of an accepted service is
well formed or empty, and `accepted_key_wellFormed_iff` tells which.
-/

namespace ServiceContract

open Outcome

variable {c : Configuration} {fetch : Fetch} {d : Draft} {s : Service} {members : Json.Members}

/-- There is a text under the key that is not empty. -/
def Json.Members.Gives (members : Json.Members) (key : Text) : Prop :=
  ∃ t, members.get? key = some (.string t) ∧ t ≠ []

namespace Service

theorem given?_eq_some_iff {text : Option Text} {t : Text} :
    given? text = some t ↔ text = some t ∧ t ≠ [] := by
  simp [given?, Option.filter_eq_some_iff]

theorem given?_textOf_eq_some_iff {key t : Text} :
    given? (Draft.textOf members key) = some t ↔ members.get? key = some (.string t) ∧ t ≠ [] := by
  rw [given?_eq_some_iff, Draft.textOf_eq_some_iff]

theorem isSome_given?_textOf_iff {key : Text} :
    (given? (Draft.textOf members key)).isSome ↔ members.Gives key := by
  rw [Option.isSome_iff_exists]
  simp only [given?_textOf_eq_some_iff, Json.Members.Gives]

theorem keyOf_eq_ok_iff {key : Text} : keyOf d = .ok key ↔ given? d.key = some key ∨
    given? d.key = none ∧ ∃ name, d.name = some name ∧ UrlKey.generate name = key := by
  unfold keyOf
  cases given? d.key with
  | some key' => simp
  | none => cases d.name <;> simp

/-- A key that is given and not empty is well formed, or the rule rejects it. -/
theorem wellFormed_of_given {key : Text} (hrule : Rule.key d = [])
    (h : given? d.key = some key) : UrlKey.WellFormed key := by
  obtain ⟨hkey, hne⟩ := given?_eq_some_iff.1 h
  exact (Rule.key_eq_nil_iff.1 hrule key hkey).resolve_right hne

end Service

/-- The key of an accepted service is the text that the document gives for it, and otherwise the
url key of the name.  It is well formed when there is such a text or the name has an ASCII letter
or digit, and empty in all other documents. -/
theorem accepted_key_wellFormed_iff {text : Text}
    (h : (validate c fetch text).outcome = .ok (.accepted s)) :
    ∃ members, readDocument text = .ok members ∧ members.get? "name" = some (.string s.name) ∧
      (members.Gives "key" → members.get? "key" = some (.string s.key)) ∧
      (¬ members.Gives "key" → s.key = UrlKey.generate s.name) ∧
      (UrlKey.WellFormed s.key ↔
        members.Gives "key" ∨ ∃ c ∈ s.name, c.isAlphanum = true) ∧
      (¬ UrlKey.WellFormed s.key → s.key = []) := by
  obtain ⟨members, d, hm, hd, -, hrules, hb, -⟩ := validate_eq_accepted_iff.1 h
  obtain ⟨_, -, _, -, rfl⟩ := Draft.ofJson_eq_ok_iff.1 hd
  obtain ⟨key, _, _, _, _, _, _, name, hk, -, -, -, -, -, -, hn, rfl⟩ := Service.build_eq_ok_iff.1 hb
  refine ⟨members, hm, Draft.textOf_eq_some_iff.1 hn, ?_⟩
  rcases Service.keyOf_eq_ok_iff.1 hk with hgiven | ⟨hnone, _, hn', rfl⟩
  · have hwell := Service.wellFormed_of_given hrules.key hgiven
    have hget := Service.given?_textOf_eq_some_iff.1 hgiven
    exact ⟨fun _ => hget.1, fun hno => absurd ⟨_, hget⟩ hno,
      iff_of_true hwell (Or.inl ⟨_, hget⟩), fun hno => absurd hwell hno⟩
  · obtain rfl := Option.some.inj (hn.symm.trans hn')
    have hno : ¬ members.Gives "key" := by
      rw [← Service.isSome_given?_textOf_iff, Option.not_isSome_iff_eq_none]
      exact hnone
    refine ⟨fun hgives => absurd hgives hno, fun _ => rfl, ?_,
      (UrlKey.wellFormed_generate_or_eq_nil name).resolve_left⟩
    rw [or_iff_right hno]
    exact UrlKey.wellFormed_generate_iff

theorem petsService_key :
    (validate {} unreachable petsDocument).outcome = .ok (.accepted petsService) ∧
    ∃ members, readDocument petsDocument = .ok members ∧
      members.get? "name" = some (.string petsService.name) ∧
      (members.Gives "key" → members.get? "key" = some (.string petsService.key)) ∧
      (¬ members.Gives "key" → petsService.key = UrlKey.generate petsService.name) ∧
      (UrlKey.WellFormed petsService.key ↔
        members.Gives "key" ∨ ∃ c ∈ petsService.name, c.isAlphanum = true) ∧
      (¬ UrlKey.WellFormed petsService.key → petsService.key = []) :=
  ⟨validate_petsDocument, accepted_key_wellFormed_iff validate_petsDocument⟩

/-- A document whose name is not written in ASCII letters. -/
def cyrillicDocument : Text := "\x7b\"name\": \"Кошки\"\x7d"

/-- The service that the document is accepted as. -/
def cyrillicService : Service where
  name := "Кошки"
  key := []
  nameSpace := "com.example..v0"
  organization := "example"
  version := "0.0.1-dev"
  description := none
  baseUrl := none
  imports := []
  headers := []
  enums := []
  unions := []
  models := []
  resources := []

/-- Not every accepted service has a well-formed key. -/
theorem exists_accepted_key_empty :
    ∃ s, (validate {} unreachable cyrillicDocument).outcome = .ok (.accepted s) ∧
      ¬ UrlKey.WellFormed s.key := by
  refine ⟨cyrillicService, by decide +kernel, fun h => ?_⟩
  exact h.ne_nil rfl

end ServiceContract
