import ServiceContract.Proofs.Draft.Likeness
import ServiceContract.Proofs.Text.Order
import ServiceContract.Rule.Declaration
import ServiceContract.Rule.PathParameter
import ServiceContract.Rule.Response

/-!
# Rules on alike drafts

Every rule has as many messages about one of two alike drafts as about the other, although the
messages may read differently and stand in another order.  The rule for responses may also stop,
for both drafts or for none (`both_responses`).
-/

namespace ServiceContract.Rule

open Draft Outcome

variable {d d' : Draft}

/-! ### Names, keys and declarations -/

theorem length_key (h : d.Alike d') : (key d).length = (key d').length := by
  rw [key, h.key, ← key]

theorem length_enums (h : d.Alike d') : (enums d).length = (enums d').length :=
  (h.enums.flatMap_right _).length_eq

theorem length_unions (h : d.Alike d') : (unions d).length = (unions d').length :=
  ((h.unions.filter _).map _).length_eq

theorem length_headers (h : d.Alike d') : (headers d).length = (headers d').length := by
  have hname : d.headers.any (·.name.isNone) = d'.headers.any (·.name.isNone) :=
    (Shuffled.of_forall₂ h.headers).any_eq fun _ _ hh => by rw [hh.name]
  have htype : d.headers.any (·.type.isNone) = d'.headers.any (·.type.isNone) :=
    (Shuffled.of_forall₂ h.headers).any_eq fun _ _ hh => by rw [hh.type]
  unfold headers
  rw [hname, htype]

/-! ### Fields -/

theorem length_aboutNamedFields {check check' : Model → Text → Field → List Text}
    (h : d.Alike d') (hcheck : ∀ m m' name f f', m.Alike m' → f.Alike f' →
      (check m name f).length = (check' m' name f').length) :
    (aboutNamedFields d check).length = (aboutNamedFields d' check').length := by
  refine h.models.length_flatMap fun m m' hm => ?_
  refine (Shuffled.of_forall₂ hm.fields).length_flatMap fun f f' hf => ?_
  rw [hf.name]
  cases f'.name with
  | none => rfl
  | some name => exact hcheck m m' name f f' hm hf

theorem length_fieldType {types types' : Declarations} (h : types.Permuted types')
    (m m' : Model) (name : Text) {f f' : Field} (hf : f.Alike f') :
    (fieldType types m name f).length = (fieldType types' m' name f').length := by
  unfold fieldType
  rw [hf.type]
  cases f'.type with
  | none => rfl
  | some label =>
    dsimp only
    rw [h.resolve?]
    split <;> rfl

theorem length_fieldWarnings (m m' : Model) (name : Text) {f f' : Field} (hf : f.Alike f') :
    (fieldWarnings m name f).length = (fieldWarnings m' name f').length := by
  unfold fieldWarnings
  rw [isEmpty_eq_of_length hf.warnings]
  split <;> rfl

theorem length_fields (h : d.Alike d') : (fields d).length = (fields d').length := by
  have htypes := length_aboutNamedFields h fun m m' name f f' _ hf =>
    length_fieldType h.permuted m m' name hf
  have hwarnings := length_aboutNamedFields h fun m m' name f f' _ hf =>
    length_fieldWarnings m m' name hf
  have hnames : (d.models.flatMap fun m => (m.fields.filter (·.name.isNone)).map fun _ =>
      unnamedField m).length = (d'.models.flatMap fun m => (m.fields.filter (·.name.isNone)).map
        fun _ => unnamedField m).length := by
    refine h.models.length_flatMap fun m m' hm => ?_
    rw [List.length_map, List.length_map]
    refine ((Shuffled.of_forall₂ hm.fields).filter fun f f' hf => ?_).length_eq
    rw [hf.name]
  exact length_append_congr (length_append_congr htypes hnames) hwarnings

/-! ### Operations, bodies and parameters -/

/-- Operations that are alike, of resources about the same type. -/
def AlikeOperation (a b : Draft.Resource × Draft.Operation) : Prop :=
  a.1.type = b.1.type ∧ a.2.Alike b.2

theorem operationsOf_alike (h : d.Alike d') :
    Shuffled AlikeOperation (operationsOf d) (operationsOf d') := by
  refine h.resources.flatMap fun r r' hr => ?_
  exact (Shuffled.of_forall₂ hr.operations).map fun op op' hop => ⟨hr.type, hop⟩

/-- What is said about the operations one by one, when as much is said about alike ones. -/
theorem length_aboutOperations {check check' : Draft.Resource × Draft.Operation → List Text}
    (h : d.Alike d') (hcheck : ∀ r r' op op', r.type = r'.type → op.Alike op' →
      (check (r, op)).length = (check' (r', op')).length) :
    ((operationsOf d).flatMap check).length = ((operationsOf d').flatMap check').length := by
  refine (operationsOf_alike h).length_flatMap ?_
  rintro ⟨r, op⟩ ⟨r', op'⟩ ⟨hr, hop⟩
  exact hcheck r r' op op' hr hop

theorem length_operations (h : d.Alike d') : (operations d).length = (operations d').length := by
  unfold operations
  rw [List.length_map, List.length_map]
  refine ((operationsOf_alike h).filter ?_).length_eq
  rintro ⟨r, op⟩ ⟨r', op'⟩ ⟨-, hop⟩
  dsimp only
  rw [isEmpty_eq_of_length hop.warnings]

theorem length_operationBody {types types' : Declarations} (h : types.Permuted types')
    (r r' : Draft.Resource) {op op' : Draft.Operation} (hop : op.Alike op') :
    (operationBody types r op).length = (operationBody types' r' op').length := by
  unfold operationBody
  obtain ⟨hb, hb'⟩ | ⟨body, body', hb, hb', htype⟩ := option_map_cases hop.body
  · rw [hb, hb']
  · rw [hb, hb']
    dsimp only
    rw [htype]
    cases body'.type with
    | none => rfl
    | some label =>
      dsimp only
      rw [h.resolve?]
      split <;> rfl

theorem length_parameterBodies (h : d.Alike d') :
    (parameterBodies d).length = (parameterBodies d').length :=
  length_aboutOperations h fun r r' _ _ _ hop => length_operationBody h.permuted r r' hop

theorem usesQuery_alike {op op' : Draft.Operation} (h : op.Alike op') :
    usesQuery op = usesQuery op' := by
  have hbody : op.body.isSome = op'.body.isSome := by
    rw [← Option.isSome_map, h.body, Option.isSome_map]
  unfold usesQuery
  obtain ⟨hm, hm'⟩ | ⟨text, text', hm, hm', htext⟩ := option_map_cases h.method
  · rw [hm, hm']
  · rw [hm, hm', hbody]
    dsimp only
    rw [htext]

theorem length_missingPart (r r' : Draft.Resource) (op op' : Draft.Operation)
    {p p' : Draft.Parameter} (hp : p.Alike p') :
    (missingPart r op p).length = (missingPart r' op' p').length := by
  unfold missingPart
  rw [hp.name, hp.type]
  cases p'.name with
  | none => rfl
  | some name => cases p'.type <;> rfl

theorem length_parameterType {types types' : Declarations} (h : types.Permuted types')
    (r r' : Draft.Resource) {op op' : Draft.Operation} (hop : op.Alike op') (p : Typed) :
    (parameterType types r op p).length = (parameterType types' r' op' p).length := by
  unfold parameterType
  rw [h.resolve?, usesQuery_alike hop]
  cases types'.resolve? p.type with
  | none => rfl
  | some type =>
    dsimp only
    split
    · cases queryTypeError? type p.type <;> rfl
    · rfl

theorem length_parameters (h : d.Alike d') : (parameters d).length = (parameters d').length := by
  refine length_append_congr ?missing ?types
  case missing =>
    refine length_aboutOperations h fun r r' op op' _ hop => ?_
    exact (Shuffled.of_forall₂ hop.parameters).length_flatMap fun p p' hp =>
      length_missingPart r r' op op' hp
  case types =>
    refine length_aboutOperations h fun r r' op op' _ hop => ?_
    dsimp only
    rw [hop.typedParameters]
    exact length_flatMap_congr fun p => length_parameterType h.permuted r r' hop p

/-! ### Path parameters -/

section

variable {r r' : Draft.Resource} {op op' : Draft.Operation}

theorem resourceFields_alike (h : d.Alike d') (hr : r.type = r'.type) :
    resourceFields d r = resourceFields d' r' := by
  unfold resourceFields
  rw [hr]
  obtain ⟨hx, hy⟩ | ⟨m, m', hx, hy, hm⟩ := option_rel_cases (h.findModel? r'.type.text)
  · rw [hx, hy]
  · rw [hx, hy]
    exact hm.typedFields

theorem placeholderSource_alike (h : d.Alike d') (hr : r.type = r'.type) (hop : op.Alike op')
    (name : Text) : placeholderSource d r op name = placeholderSource d' r' op' name := by
  unfold placeholderSource
  rw [hop.typedParameters, resourceFields_alike h hr]

theorem length_placeholderType (h : d.Alike d') (hr : r.type = r'.type) (hop : op.Alike op')
    (name : Text) :
    (placeholderType d r op name).length = (placeholderType d' r' op' name).length := by
  unfold placeholderType invalidInPath?
  rw [placeholderSource_alike h hr hop, h.permuted.resolve?]
  split <;> rfl

end

theorem length_pathParameters (h : d.Alike d') :
    (pathParameters d).length = (pathParameters d').length := by
  refine length_aboutOperations h fun r r' op op' hr hop => ?_
  dsimp only
  rw [hop.placeholders]
  exact length_flatMap_congr fun name => length_placeholderType h hr hop name

theorem length_pathParametersRequired (h : d.Alike d') :
    (pathParametersRequired d).length = (pathParametersRequired d').length := by
  refine length_aboutOperations h fun r r' op op' hr hop => ?_
  rw [List.length_map, List.length_map, hop.placeholders]
  simp only [placeholderSource_alike h hr hop]

/-! ### Methods and responses -/

theorem responsesOf_alike (h : d.Alike d') :
    Shuffled (fun a b => a.2.2.Alike b.2.2) (responsesOf d) (responsesOf d') := by
  refine (operationsOf_alike h).flatMap ?_
  rintro ⟨r, op⟩ ⟨r', op'⟩ ⟨-, hop⟩
  exact hop.responses.map fun _ _ hx => hx

theorem length_aboutResponses
    {check check' : Draft.Resource × Draft.Operation × Draft.Response → List Text}
    (h : d.Alike d') (hcheck : ∀ r r' op op' x x', x.Alike x' →
      (check (r, op, x)).length = (check' (r', op', x')).length) :
    ((responsesOf d).flatMap check).length = ((responsesOf d').flatMap check').length := by
  refine (responsesOf_alike h).length_flatMap ?_
  rintro ⟨r, op, x⟩ ⟨r', op', x'⟩ hx
  exact hcheck r r' op op' x x' hx

theorem length_operationMethod (r r' : Draft.Resource) {op op' : Draft.Operation}
    (h : op.Alike op') : (operationMethod r op).length = (operationMethod r' op').length := by
  unfold operationMethod
  obtain ⟨hm, hm'⟩ | ⟨text, text', hm, hm', htext⟩ := option_map_cases h.method
  · rw [hm, hm']
    rfl
  · rw [hm, hm']
    dsimp only
    rw [htext]
    split <;> rfl

theorem both_unreadableCodes (h : d.Alike d') :
    Both (fun es es' => es.length = es'.length) (unreadableCodes d) (unreadableCodes d') := by
  unfold unreadableCodes
  refine Both.bind (r := Shuffled fun es es' => es.length = es'.length)
    ((responsesOf_alike h).mapM ?_) fun ess ess' hess => .ok ?_
  · rintro ⟨r, op, x⟩ ⟨r', op', x'⟩ hx
    dsimp only at hx ⊢
    rw [hx.code]
    refine (both_eq _).map ?_
    rintro code _ rfl
    split <;> rfl
  · rw [← List.flatMap_id, ← List.flatMap_id]
    exact hess.length_flatMap fun _ _ he => he

theorem length_responseType {types types' : Declarations} (h : types.Permuted types')
    (r r' : Draft.Resource) (op op' : Draft.Operation) {x x' : Draft.Response} (hx : x.Alike x') :
    (responseType types r op x).length = (responseType types' r' op' x').length := by
  unfold responseType
  rw [hx.type]
  cases x'.type with
  | none => rfl
  | some label =>
    dsimp only
    rw [h.resolve?]
    split <;> rfl

/-! ### Checks that depend on codes -/

theorem codeSatisfies_alike (p : Int → Bool) {x x' : Draft.Response} (h : x.Alike x') :
    codeSatisfies p x = codeSatisfies p x' := by
  rw [codeSatisfies, h.code, ← codeSatisfies]

theorem length_successLabels {op op' : Draft.Operation} (h : op.Alike op') :
    (successLabels op).length = (successLabels op').length := by
  have hsuccess := h.responses.filter fun x x' hx => codeSatisfies_alike isSuccess hx
  have hlabels := hsuccess.filterMap (q := (· = ·)) (f := fun x => x.type.map (·.text))
    (g := fun x => x.type.map (·.text)) fun x x' hx => by
      rw [hx.type]
      cases x'.type with
      | none => exact .none
      | some _ => exact .some rfl
  exact (Text.eraseDups_perm hlabels.perm).length_eq

theorem length_mixedSuccess (r r' : Draft.Resource) {op op' : Draft.Operation}
    (h : op.Alike op') : (mixedSuccess r op).length = (mixedSuccess r' op').length := by
  unfold mixedSuccess
  rw [length_successLabels h]
  split <;> rfl

theorem length_reservedCode (r r' : Draft.Resource) {op op' : Draft.Operation}
    (h : op.Alike op') : (reservedCode r op).length = (reservedCode r' op').length := by
  have hfound : (op.responses.find? (codeSatisfies isReserved)).isSome =
      (op'.responses.find? (codeSatisfies isReserved)).isSome := by
    rw [Bool.eq_iff_iff, List.find?_isSome, List.find?_isSome, ← List.any_eq_true,
      ← List.any_eq_true, h.responses.any_eq fun x x' hx => codeSatisfies_alike isReserved hx]
  unfold reservedCode
  generalize op.responses.find? (codeSatisfies isReserved) = found at hfound
  generalize op'.responses.find? (codeSatisfies isReserved) = found' at hfound
  cases found with
  | none =>
    cases found' with
    | none => rfl
    | some x' => cases hfound
  | some x =>
    cases found' with
    | none => cases hfound
    | some x' => rfl

theorem length_contentType (r r' : Draft.Resource) (op op' : Draft.Operation)
    {x x' : Draft.Response} (h : x.Alike x') :
    (contentType r op x).length = (contentType r' op' x').length := by
  unfold contentType
  rw [h.type, codeSatisfies_alike hasNoContent h]
  cases x'.type with
  | none => rfl
  | some label =>
    dsimp only
    split <;> rfl

theorem length_codeErrors (h : d.Alike d') : (codeErrors d).length = (codeErrors d').length := by
  refine length_append_congr (length_append_congr ?mixed ?reserved) ?content
  case mixed =>
    exact length_aboutOperations h fun r r' _ _ _ hop => length_mixedSuccess r r' hop
  case reserved =>
    exact length_aboutOperations h fun r r' _ _ _ hop => length_reservedCode r r' hop
  case content =>
    exact length_aboutResponses h fun r r' op op' _ _ hx => length_contentType r r' op op' hx

/-! ### The rule for responses -/

theorem length_responseWarnings (r r' : Draft.Resource) (op op' : Draft.Operation)
    {x x' : Draft.Response} (h : x.Alike x') :
    (responseWarnings r op x).length = (responseWarnings r' op' x').length := by
  unfold responseWarnings
  rw [isEmpty_eq_of_length h.warnings]
  split <;> rfl

/-- The rule for responses stops on both of two alike drafts or on none, and has as many messages
about the one as about the other. -/
theorem both_responses (h : d.Alike d') :
    Both (fun es es' => es.length = es'.length) (responses d) (responses d') := by
  unfold responses
  refine (both_unreadableCodes h).bind fun es es' hes => .ok ?_
  refine length_append_congr (length_append_congr (length_append_congr
    (length_append_congr ?methods hes) ?types) ?codes) ?warnings
  case methods =>
    exact length_aboutOperations h fun r r' _ _ _ hop => length_operationMethod r r' hop
  case types =>
    exact length_aboutResponses h fun r r' op op' _ _ hx =>
      length_responseType h.permuted r r' op op' hx
  case codes =>
    -- a code that cannot be read keeps these checks from both drafts
    rw [isEmpty_eq_of_length hes]
    split
    · exact length_codeErrors h
    · rfl
  case warnings =>
    exact length_aboutResponses h fun r r' op op' _ _ hx =>
      length_responseWarnings r r' op op' hx

end ServiceContract.Rule
