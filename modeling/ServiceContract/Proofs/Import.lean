import ServiceContract.Import
import ServiceContract.Proofs.Json.Entries
import ServiceContract.Proofs.Json.Reader

/-!
# What the check of an import comes to

With a fetcher that yields a text or says why it has none, the check of an import stops only at an
integer of the fetched text that is too long (`check_isOk_eq_false_iff`).  Otherwise it has no
message exactly for the description of a service, and one message for anything else
(`check_finds_description`).
-/

namespace ServiceContract

/-- At every address there is a text, or it is unavailable for some reason. -/
def Fetch.Answers (fetch : Fetch) : Prop :=
  ∀ uri fault, fetch uri = .error fault → ∃ reason, fault = .unavailable reason

/-- A fetcher that finds an integer at every address, and one with too many digits. -/
def numerals : Fetch := fun _ => .ok (List.replicate 4301 (.char '9'))

theorem numerals_answers : numerals.Answers := by
  intro uri fault h
  cases h

namespace Import

theorem checkText_isOk_eq_false_iff {uri text : Text} :
    (checkText uri text).isOk = false ↔ ∃ n, Json.read text = .error (.integerTooLong n) := by
  unfold checkText
  cases Json.read text with
  | error fault => cases fault <;> simp
  | ok value =>
    cases value with
    | object members =>
      dsimp only
      split_ifs <;> simp
    | _ => simp

theorem outcome_check_of_ok {fetch : Fetch} {uri text : Text} (h : fetch uri = .ok text) :
    ((check uri).run fetch).outcome = checkText uri text := by
  simp only [check, Inquiry.run, h]

theorem outcome_check_of_unavailable {fetch : Fetch} {uri reason : Text}
    (h : fetch uri = .error (.unavailable reason)) : ((check uri).run fetch).outcome =
      .ok ["Error fetching import[" ++ uri ++ "]: " ++ reason] := by
  simp only [check, Inquiry.run, h]

/-- The check of an import stops exactly when the fetched text has an integer that is too long
before any other fault. -/
theorem check_isOk_eq_false_iff {fetch : Fetch} (hf : fetch.Answers) {uri : Text} :
    ((check uri).run fetch).outcome.isOk = false ↔ ∃ text n, fetch uri = .ok text ∧
      Json.HasLongInteger text n ∧ Json.read text = .error (.integerTooLong n) := by
  cases h : fetch uri with
  | error fault =>
    obtain ⟨reason, rfl⟩ := hf uri fault h
    rw [outcome_check_of_unavailable h]
    simp
  | ok text =>
    rw [outcome_check_of_ok h, checkText_isOk_eq_false_iff]
    constructor
    · rintro ⟨n, hn⟩
      exact ⟨text, n, rfl, Json.hasLongInteger_of_read hn, hn⟩
    · rintro ⟨text', n, htext, -, hn⟩
      obtain rfl : text = text' := by simpa using htext
      exact ⟨n, hn⟩

/-! ### Messages -/

/-- The text is an object with a text for its name and one for its namespace; of the entries of one
key the last counts. -/
def IsDescription (text : Text) : Prop :=
  ∃ entries, Json.entriesOf? text = some entries ∧
    (∃ name, Json.lastOf? entries "name" = some (.string name)) ∧
    ∃ nameSpace, Json.lastOf? entries "namespace" = some (.string nameSpace)

theorem text?_isNone_eq_false_iff {value : Option Json.Value} :
    (value.bind Json.Value.text?).isNone = false ↔ ∃ s, value = some (.string s) := by
  cases value with
  | none => simp
  | some v => cases v <;> simp [Json.Value.text?]

theorem missingKeys_eq_nil_iff {members : Json.Members} : missingKeys members = [] ↔
    (∃ name, members.get? "name" = some (.string name)) ∧
      ∃ nameSpace, members.get? "namespace" = some (.string nameSpace) := by
  rw [missingKeys, List.filter_eq_nil_iff]
  simp only [requiredKeys, List.forall_mem_cons, Bool.not_eq_true, text?_isNone_eq_false_iff,
    List.not_mem_nil, false_imp_iff, implies_true, and_true]

theorem checkText_eq_nil_iff {uri text : Text} : checkText uri text = .ok [] ↔
    ∃ members, Json.read text = .ok (.object members) ∧ missingKeys members = [] := by
  unfold checkText
  cases Json.read text with
  | error fault => cases fault <;> simp
  | ok value =>
    cases value with
    | object members =>
      by_cases h : missingKeys members = []
      · simp [h]
      · simp [h]
    | _ => simp

theorem isDescription_iff {text : Text} : IsDescription text ↔
    ∃ members, Json.read text = .ok (.object members) ∧ missingKeys members = [] := by
  have hget : ∀ (entries : Json.Members) (key : Text),
      (Json.Members.putAll [] entries).get? key = Json.lastOf? entries key := by
    intro entries key
    rw [Json.Members.get?_putAll]
    exact Option.or_none
  simp only [Json.read_eq_object_iff, missingKeys_eq_nil_iff]
  constructor
  · rintro ⟨entries, h, htexts⟩
    exact ⟨_, ⟨entries, h, rfl⟩, by simpa only [hget] using htexts⟩
  · rintro ⟨_, ⟨entries, h, rfl⟩, htexts⟩
    exact ⟨entries, h, by simpa only [hget] using htexts⟩

theorem checkText_length_le_one {uri text : Text} {messages : List Text}
    (h : checkText uri text = .ok messages) : messages.length ≤ 1 := by
  unfold checkText at h
  split at h
  · obtain rfl := Except.ok.inj h
    exact le_rfl
  · obtain rfl := Except.ok.inj h
    exact le_rfl
  · cases h
  · dsimp only at h
    split_ifs at h
    · obtain rfl := Except.ok.inj h
      exact Nat.zero_le 1
    · obtain rfl := Except.ok.inj h
      exact le_rfl
  · obtain rfl := Except.ok.inj h
    exact le_rfl

/-- With a fetcher that answers, the check of an import stops exactly at an integer that is too
long, has no message exactly for the description of a service, and never has more than one. -/
theorem check_finds_description {fetch : Fetch} (hf : fetch.Answers) (uri : Text) :
    ((∃ fault, ((check uri).run fetch).outcome = .error fault) ↔ ∃ text n, fetch uri = .ok text ∧
      Json.HasLongInteger text n ∧ Json.read text = .error (.integerTooLong n)) ∧
    (((check uri).run fetch).outcome = .ok [] ↔
      ∃ text, fetch uri = .ok text ∧ IsDescription text) ∧
    ∀ messages, ((check uri).run fetch).outcome = .ok messages → messages ≠ [] →
      messages.length = 1 := by
  refine ⟨?_, ?_, fun messages h hne => ?_⟩
  · rw [← Outcome.isOk_eq_false_iff]
    exact check_isOk_eq_false_iff hf
  · simp only [isDescription_iff]
    cases h : fetch uri with
    | error fault =>
      obtain ⟨reason, rfl⟩ := hf uri fault h
      rw [outcome_check_of_unavailable h]
      simp
    | ok text =>
      rw [outcome_check_of_ok h]
      simp [checkText_eq_nil_iff]
  · refine le_antisymm ?_ (List.length_pos_iff.2 hne)
    cases hfetch : fetch uri with
    | error fault =>
      obtain ⟨reason, rfl⟩ := hf uri fault hfetch
      rw [outcome_check_of_unavailable hfetch] at h
      obtain rfl := Except.ok.inj h
      exact le_rfl
    | ok text =>
      rw [outcome_check_of_ok hfetch] at h
      exact checkText_length_le_one h

/-- A fetcher that finds one description everywhere, with two entries for its name. -/
def renamed : Fetch := fun _ =>
  .ok "\x7b\"name\": 1, \"namespace\": \"n\", \"name\": \"a\"\x7d"

theorem check_renamed :
    renamed.Answers ∧ ∃ text, renamed "file:///a" = .ok text ∧ IsDescription text := by
  have hanswers : renamed.Answers := fun _ _ h => by cases h
  have hcheck : ((check "file:///a").run renamed).outcome = .ok [] := by decide +kernel
  exact ⟨hanswers, (check_finds_description hanswers "file:///a").2.1.1 hcheck⟩

/-- A check can stop although the fetcher answers. -/
theorem check_numerals_stops :
    numerals.Answers ∧
      ((check "file:///a").run numerals).outcome = .error (.integer (.tooLong 4301)) :=
  ⟨numerals_answers, by decide +kernel⟩

end Import

end ServiceContract
