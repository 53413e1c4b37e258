import ServiceContract.Proofs.Draft.Label
import ServiceContract.Proofs.Rule.ResponseReport
import ServiceContract.Validation

/-!
# Varying types of successful responses

The successful responses of an operation are meant to have one type.  The rule compares their
labels as texts, and one type can be spelled in several ways, with blanks inside brackets or by the
bare word `map`.  So it reports an operation whose types vary, and also one that spells a single
type in two ways (`varying_reported_iff`).  It reports exactly the operations whose types vary where
all labels are canonical.
-/

namespace ServiceContract

/-- The label is spelled as the type that it denotes is printed. -/
def Label.IsCanonical (types : Declarations) (label : Label) : Prop :=
  ∀ type ∈ types.resolve? label, label.text = type.label

namespace Rule

variable {types : Declarations} {r : Draft.Resource} {op : Draft.Operation}

/-- The code can be read as an integer. -/
def HasReadableCode (x : Draft.Response) : Prop :=
  Number.isSignedNumeral x.code = true ∧ ¬ HasLongCode x

instance : DecidablePred HasReadableCode := fun _ => inferInstanceAs (Decidable (_ ∧ _))

/-- The code is one from 200 to 299. -/
def IsSuccessful (x : Draft.Response) : Prop := HasCode (fun n => 200 ≤ n ∧ n ≤ 299) x

instance : DecidablePred IsSuccessful :=
  inferInstanceAs (DecidablePred (HasCode fun n => 200 ≤ n ∧ n ≤ 299))

/-- Two successful responses of the operation have labels that are related so. -/
def SomeSuccessLabels (op : Draft.Operation) (p : Label → Label → Prop) : Prop :=
  ∃ x ∈ op.responses, ∃ y ∈ op.responses, IsSuccessful x ∧ IsSuccessful y ∧
    ∃ label ∈ x.type, ∃ label' ∈ y.type, p label label'

instance (op : Draft.Operation) (p : Label → Label → Prop) [DecidableRel p] :
    Decidable (SomeSuccessLabels op p) :=
  inferInstanceAs (Decidable (∃ x ∈ op.responses, ∃ y ∈ op.responses, IsSuccessful x ∧
    IsSuccessful y ∧ ∃ label ∈ x.type, ∃ label' ∈ y.type, p label label'))

/-- Two successful responses resolve to different types. -/
def TypesVary (types : Declarations) (op : Draft.Operation) : Prop :=
  SomeSuccessLabels op fun label label' => types.resolve? label ≠ types.resolve? label'

instance : Decidable (TypesVary types op) :=
  inferInstanceAs (Decidable (SomeSuccessLabels op _))

/-- Two successful responses resolve to one type by labels with different texts. -/
def SpellingsVary (types : Declarations) (op : Draft.Operation) : Prop :=
  SomeSuccessLabels op fun label label' =>
    types.resolve? label = types.resolve? label' ∧ label.text ≠ label'.text

theorem codeSatisfies_isSuccess_iff {x : Draft.Response}
    (hs : Number.isSignedNumeral x.code = true) :
    codeSatisfies isSuccess x = true ↔ IsSuccessful x := by
  rw [codeSatisfies_iff hs, IsSuccessful]
  have hrange : ∀ n : Int, isSuccess n = true ↔ 200 ≤ n ∧ n ≤ 299 := by
    intro n
    simp only [isSuccess, Bool.and_eq_true, decide_eq_true_eq]
    omega
  simp only [hrange]

/-- An operation is reported when two of its successful responses have labels with different
texts. -/
theorem mixedSuccess_ne_nil_iff (r : Draft.Resource)
    (hs : ∀ x ∈ op.responses, Number.isSignedNumeral x.code = true) :
    mixedSuccess r op ≠ [] ↔ SomeSuccessLabels op fun label label' => label.text ≠ label'.text := by
  rw [Ne, mixedSuccess_eq_nil_iff]
  push Not
  simp only [mem_successLabels]
  constructor
  · rintro ⟨_, ⟨x, hx, hxs, label, hl, rfl⟩, _, ⟨y, hy, hys, label', hl', rfl⟩, hne⟩
    exact ⟨x, hx, y, hy, (codeSatisfies_isSuccess_iff (hs x hx)).1 hxs,
      (codeSatisfies_isSuccess_iff (hs y hy)).1 hys, label, hl, label', hl', hne⟩
  · rintro ⟨x, hx, y, hy, hxs, hys, label, hl, label', hl', hne⟩
    exact ⟨_, ⟨x, hx, (codeSatisfies_isSuccess_iff (hs x hx)).2 hxs, label, hl, rfl⟩,
      _, ⟨y, hy, (codeSatisfies_isSuccess_iff (hs y hy)).2 hys, label', hl', rfl⟩, hne⟩

/-- Labels that are spelled by their texts differ when what they resolve to differs. -/
theorem text_ne_of_resolve?_ne {label label' : Label} (hl : label.IsSpelled)
    (hl' : label'.IsSpelled) (h : types.resolve? label ≠ types.resolve? label') :
    label.text ≠ label'.text := by
  intro htext
  apply h
  rw [← types.resolveText?_of_isSpelled hl, ← types.resolveText?_of_isSpelled hl', htext]

theorem labelsVary_iff (types : Declarations)
    (hspelled : ∀ x ∈ op.responses, ∀ label ∈ x.type, label.IsSpelled) :
    (SomeSuccessLabels op fun label label' => label.text ≠ label'.text) ↔
      TypesVary types op ∨ SpellingsVary types op := by
  constructor
  · rintro ⟨x, hx, y, hy, hxs, hys, label, hl, label', hl', hne⟩
    by_cases h : types.resolve? label = types.resolve? label'
    · exact Or.inr ⟨x, hx, y, hy, hxs, hys, label, hl, label', hl', h, hne⟩
    · exact Or.inl ⟨x, hx, y, hy, hxs, hys, label, hl, label', hl', h⟩
  · rintro (⟨x, hx, y, hy, hxs, hys, label, hl, label', hl', h⟩ |
      ⟨x, hx, y, hy, hxs, hys, label, hl, label', hl', -, hne⟩)
    · exact ⟨x, hx, y, hy, hxs, hys, label, hl, label', hl',
        text_ne_of_resolve?_ne (hspelled x hx label hl) (hspelled y hy label' hl') h⟩
    · exact ⟨x, hx, y, hy, hxs, hys, label, hl, label', hl', hne⟩

/-- Canonical labels spell one type in one way. -/
theorem not_spellingsVary_of_isCanonical
    (hresolved : ∀ x ∈ op.responses, IsSuccessful x → HasType types x.type)
    (hcanonical : ∀ x ∈ op.responses, ∀ label ∈ x.type, label.IsCanonical types) :
    ¬ SpellingsVary types op := by
  rintro ⟨x, hx, y, hy, hxs, -, label, hl, label', hl', hsame, hne⟩
  -- both labels resolve to one type, whose printed form is the text of either
  obtain ⟨label₀, hl₀, hsome⟩ := hresolved x hx hxs
  obtain rfl : label₀ = label := Option.some.inj (hl₀.symm.trans hl)
  obtain ⟨type, htype⟩ := Option.isSome_iff_exists.1 hsome
  have htext := hcanonical x hx label₀ hl type htype
  rw [hsame] at htype
  exact hne (htext.trans (hcanonical y hy label' hl' type htype).symm)

/-- Where all codes can be read, the rule for responses yields a report that has its say about each
operation, and it reports varying types of an operation exactly when two of its successful
responses have labels with different texts.  If the labels are spelled by their texts, as in any
draft that is read from a document, these are the operations whose types vary and those that spell
one type in two ways; they are those whose types vary alone if the labels are canonical as well. -/
theorem varying_reported_iff {d : Draft} (hcodes : ∀ x ∈ responsesOf d, HasReadableCode x.2.2)
    (hr : r ∈ d.resources) (hop : op ∈ r.operations)
    (hresolved : ∀ x ∈ op.responses, IsSuccessful x → HasType d.declarations x.type) :
    responses d = .ok (family d (·.methods) ++ family d (·.types) ++ family d (·.mixed) ++
      family d (·.reserved) ++ family d (·.content) ++ family d (·.warnings)) ∧
    ((reportOf d.declarations r op).mixed ≠ [] ↔
      SomeSuccessLabels op fun label label' => label.text ≠ label'.text) ∧
    ((∀ x ∈ op.responses, ∀ label ∈ x.type, label.IsSpelled) →
      ((reportOf d.declarations r op).mixed ≠ [] ↔
        TypesVary d.declarations op ∨ SpellingsVary d.declarations op) ∧
      ((∀ x ∈ op.responses, ∀ label ∈ x.type, label.IsCanonical d.declarations) →
        ((reportOf d.declarations r op).mixed ≠ [] ↔ TypesVary d.declarations op))) := by
  have hsigned : ∀ x ∈ op.responses, Number.isSignedNumeral x.code = true :=
    fun x hx => (forall_mem_responsesOf.1 hcodes r hr op hop x hx).1
  have hreported := mixedSuccess_ne_nil_iff r hsigned
  refine ⟨responses_eq_of_integers (fun x hx => (hcodes x hx).2) fun x hx => (hcodes x hx).1,
    hreported, fun hspelled => ?_⟩
  have hvary := hreported.trans (labelsVary_iff d.declarations hspelled)
  refine ⟨hvary, fun hcanonical => hvary.trans (or_iff_left ?_)⟩
  exact not_spellingsVary_of_isCanonical hresolved hcanonical

/-- A document whose operation spells the type of its two responses in two ways. -/
def respelledDocument : Text := Text.ofLines [
  "\x7b\"name\": \"Pets\",",
  "\"models\": \x7b\"pet\": \x7b\"fields\": []\x7d\x7d,",
  "\"resources\": \x7b\"pet\": \x7b\"path\": \"/pets\",",
  "\"operations\": [\x7b\"method\": \"GET\",",
  "\"responses\": \x7b\"200\": \x7b\"type\": \"[pet]\"\x7d,",
  "\"201\": \x7b\"type\": \"[ pet ]\"\x7d\x7d\x7d]\x7d\x7d\x7d"]

/-- The operation as it is read. -/
def respelledOperation : Draft.Operation where
  method := some "GET"
  path := "/pets"
  description := none
  body := none
  parameters := []
  responses := [⟨"200", some (Label.ofText "[pet]"), none, []⟩,
    ⟨"201", some (Label.ofText "[ pet ]"), none, []⟩]
  warnings := []

def respelledResource : Draft.Resource := ⟨Label.ofText "pet", "/pets", none, [respelledOperation]⟩

/-- The draft that the document is read as. -/
def respelledDraft : Draft where
  name := some "Pets"
  key := none
  nameSpace := none
  description := none
  baseUrl := none
  imports := []
  headers := []
  enums := []
  unions := []
  models := [⟨"pet", none, []⟩]
  resources := [respelledResource]

theorem respelledOperation_reported :
    (∀ x ∈ responsesOf respelledDraft, HasReadableCode x.2.2) ∧
    (∀ x ∈ respelledOperation.responses, IsSuccessful x →
      HasType respelledDraft.declarations x.type) ∧
    (∀ x ∈ respelledOperation.responses, ∀ label ∈ x.type, label.IsSpelled) ∧
    ((reportOf respelledDraft.declarations respelledResource respelledOperation).mixed ≠ [] ↔
      TypesVary respelledDraft.declarations respelledOperation ∨
        SpellingsVary respelledDraft.declarations respelledOperation) := by
  have hcodes : ∀ x ∈ responsesOf respelledDraft, HasReadableCode x.2.2 := by decide +kernel
  have hresolved : ∀ x ∈ respelledOperation.responses, IsSuccessful x →
      HasType respelledDraft.declarations x.type := by decide +kernel
  have hspelled : ∀ x ∈ respelledOperation.responses, ∀ label ∈ x.type, label.IsSpelled := by
    simp [respelledOperation, Label.isSpelled_ofText]
  exact ⟨hcodes, hresolved, hspelled, ((varying_reported_iff hcodes (List.mem_singleton_self _)
    (List.mem_singleton_self _) hresolved).2.2 hspelled).1⟩

/-- Not every operation that is reported for varying types has varying types. -/
theorem exists_reported_without_varying : ∃ members d,
    readDocument respelledDocument = .ok members ∧ Draft.ofJson members = .ok d ∧
    (∀ x ∈ responsesOf d, HasReadableCode x.2.2) ∧ ∃ r ∈ d.resources, ∃ op ∈ r.operations,
      (∀ x ∈ op.responses, IsSuccessful x → HasType d.declarations x.type) ∧
      (reportOf d.declarations r op).mixed ≠ [] ∧ ¬ TypesVary d.declarations op := by
  have hread : (readDocument respelledDocument).toOption.bind
      (fun members => (Draft.ofJson members).toOption) = some respelledDraft := by decide +kernel
  cases hm : readDocument respelledDocument with
  | error fault => simp [hm, Except.toOption] at hread
  | ok members =>
    cases hd : Draft.ofJson members with
    | error fault => simp [hm, hd, Except.toOption] at hread
    | ok d =>
      obtain rfl : d = respelledDraft := by simpa [hm, hd, Except.toOption] using hread
      exact ⟨members, _, rfl, hd, by decide +kernel, respelledResource, List.mem_singleton_self _,
        respelledOperation, List.mem_singleton_self _, by decide +kernel, by decide +kernel,
        by decide +kernel⟩

end Rule

end ServiceContract
