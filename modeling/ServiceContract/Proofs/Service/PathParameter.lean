import ServiceContract.Proofs.Rule.PathParameter
import ServiceContract.Proofs.Service.Closed

/-!
# Path parameters of accepted services

A parameter whose name is a placeholder of the path stands in the path.  It has to be required,
and its type has to be an enum or a primitive that can be written there.  The rules ask this of
one parameter for each placeholder, the last one of its name, while every parameter of that name
is given its place in the path: of a parameter that a later one of the same name hides, nothing
is asked.
-/

namespace ServiceContract

open Outcome

variable {c : Configuration} {fetch : Fetch} {d : Draft} {s : Service}

namespace Service

/-- The parameter is required, and its label is that of an enum, or of a primitive that can be
written in a path. -/
def Parameter.FitsPath (s : Service) (p : Parameter) : Prop :=
  p.required = true ∧ ∃ ref, s.declarations.resolveText? p.type = some (.scalar ref) ∧
    (ref.kind = .enumeration ∨
      (ref.kind = .primitive ∧ ∃ primitive ∈ Primitive.validInPath, primitive.name = ref.name))

/-- A parameter that stands in the path has the name of a placeholder. -/
theorem mem_placeholders_of_locationOf {op : Draft.Operation} {method : Option Method}
    {p : Draft.Parameter} {name : Text} (hn : p.name = some name)
    (h : locationOf op method p = .path) : name ∈ op.placeholders := by
  unfold locationOf at h
  split at h
  · simpa [hn] using ‹p.name.any op.placeholders.contains = true›
  · split at h <;> simp at h

/-- In what an operation is built from, the last parameter of a name is the one that the rules
take for its placeholder. -/
theorem placeholderSource_of_last {r : Draft.Resource} {op : Draft.Operation}
    {op' : Operation} (hb : buildOperation op = .ok op') {before after : List Parameter}
    {p : Parameter} (hp : op'.parameters = before ++ p :: after)
    (hlast : ∀ q ∈ after, q.name ≠ p.name) :
    ∃ p₀ ∈ op.parameters, ∃ label, p₀.type = some label ∧ label.text = p.type ∧
      (p.location = .path → p.name ∈ op.placeholders) ∧
      Rule.placeholderSource d r op p.name = ⟨p.name, label, p.required⟩ := by
  obtain ⟨text, method, body, parameters, responses, -, -, -, hparams, -, rfl⟩ :=
    buildOperation_eq_ok_iff.1 hb
  obtain rfl : parameters = before ++ p :: after := hp
  obtain ⟨before₀, p₀, after₀, hsplit, hpb, hafter⟩ := split_of_mapM hparams
  obtain ⟨name, label, hn, hl, rfl⟩ := buildParameter_eq_ok_iff.1 hpb
  refine ⟨p₀, by simp [hsplit], label, hl, rfl, mem_placeholders_of_locationOf hn, ?_⟩
  have htyped : p₀.typed? = some ⟨name, label, p₀.required⟩ :=
    Rule.typed?_eq_some_iff.2 ⟨hn, hl, rfl⟩
  have hlater : ∀ u ∈ after₀.filterMap Draft.Parameter.typed?, u.name ≠ name := by
    intro u hu
    obtain ⟨q₀, hq₀, hqu⟩ := List.mem_filterMap.1 hu
    obtain ⟨q, hq, hqb⟩ := exists_result_of_mem_mapM hafter hq₀
    obtain ⟨name', label', hn', -, rfl⟩ := buildParameter_eq_ok_iff.1 hqb
    have hname := (Rule.typed?_eq_some_iff.1 hqu).1
    rw [hn', Option.some.injEq] at hname
    rw [← hname]
    exact hlast _ hq
  have hfound : Rule.lastNamed? name op.typedParameters = some ⟨name, label, p₀.required⟩ := by
    rw [Draft.Operation.typedParameters, hsplit, List.filterMap_append,
      List.filterMap_cons_some htyped]
    exact Rule.lastNamed?_eq_some_iff.2 ⟨rfl, _, _, rfl, hlater⟩
  simp [Rule.placeholderSource, hfound]

end Service

/-- A path parameter that no later parameter of its name hides is fit for the path. -/
theorem fitsPath_of_last {text : Text} (h : (validate c fetch text).outcome = .ok (.accepted s))
    {r : Service.Resource} (hr : r ∈ s.resources) {op : Service.Operation}
    (hop : op ∈ r.operations) {before after : List Service.Parameter} {p : Service.Parameter}
    (hp : op.parameters = before ++ p :: after) (hpath : p.location = .path)
    (hlast : ∀ q ∈ after, q.name ≠ p.name) : p.FitsPath s := by
  obtain ⟨members, d, -, hd, -, hrules, hb, -⟩ := validate_eq_accepted_iff.1 h
  obtain ⟨r₀, hr₀, op₀, hop₀, hbuild⟩ := Service.exists_operation_of_build hb hr hop
  obtain ⟨p₀, hp₀, label, hl, htext, hplace, hsource⟩ :=
    Service.placeholderSource_of_last (d := d) (r := r₀) hbuild hp hlast
  have hmem := hplace hpath
  have hrequired := Rule.pathParametersRequired_eq_nil_iff.1 hrules.pathParametersRequired
    r₀ hr₀ op₀ hop₀ p.name hmem
  have hvalid := Rule.pathParameters_eq_nil_iff.1 hrules.pathParameters r₀ hr₀ op₀ hop₀ p.name hmem
  rw [hsource] at hrequired hvalid
  obtain ⟨ref, hres, href⟩ := Rule.invalidInPath?_eq_none_iff.1 hvalid
  have hspelled := ((Draft.ofJson_spelled hd).operations r₀ hr₀ op₀ hop₀).parameters p₀ hp₀ label hl
  refine ⟨hrequired, ref, ?_, Rule.isValidInPath_iff.1 href⟩
  rw [← htext, Service.resolveText?_of_build hb hspelled]
  exact hres

/-! ### Hidden parameters -/

/-- A parameter of the operation that a later one of the same name hides. -/
def Service.Operation.Hides (op : Service.Operation) (p : Service.Parameter) : Prop :=
  ∃ before after, op.parameters = before ++ p :: after ∧ ∃ q ∈ after, q.name = p.name

/-- Where names are not repeated, nothing is hidden. -/
theorem Service.Operation.not_hides_of_nodup {op : Service.Operation}
    (h : (op.parameters.map (·.name)).Nodup) (p : Service.Parameter) : ¬ op.Hides p := by
  rintro ⟨before, after, hsplit, q, hq, hname⟩
  rw [hsplit, List.map_append, List.map_cons] at h
  have hcons := (List.nodup_append.1 h).2.1
  exact (List.nodup_cons.1 hcons).1 (List.mem_map.2 ⟨q, hq, hname⟩)

/-- In an accepted service the path parameters of an operation are all fit for the path exactly
when the hidden ones among them are; and every one that is not hidden is.  In particular all are
where no two parameters of the operation have one name. -/
theorem pathParameters_fit_iff_hidden_fit {text : Text}
    (h : (validate c fetch text).outcome = .ok (.accepted s)) {r : Service.Resource}
    (hr : r ∈ s.resources) {op : Service.Operation} (hop : op ∈ r.operations) :
    (∀ p ∈ op.parameters, p.location = .path → ¬ op.Hides p → p.FitsPath s) ∧
    ((∀ p ∈ op.parameters, p.location = .path → p.FitsPath s) ↔
      ∀ p ∈ op.parameters, p.location = .path → op.Hides p → p.FitsPath s) ∧
    ((op.parameters.map (·.name)).Nodup →
      ∀ p ∈ op.parameters, p.location = .path → p.FitsPath s) := by
  have visible : ∀ p ∈ op.parameters, p.location = .path → ¬ op.Hides p → p.FitsPath s := by
    intro p hp hpath hvisible
    obtain ⟨before, after, hsplit⟩ := List.append_of_mem hp
    refine fitsPath_of_last h hr hop hsplit hpath fun q hq hname => ?_
    exact hvisible ⟨before, after, hsplit, q, hq, hname⟩
  refine ⟨visible, ⟨fun hall p hp hpath _ => hall p hp hpath, fun hhidden p hp hpath => ?_⟩,
    fun hnodup p hp hpath => visible p hp hpath (Service.Operation.not_hides_of_nodup hnodup p)⟩
  by_cases hh : op.Hides p
  · exact hhidden p hp hpath hh
  · exact visible p hp hpath hh

/-- A document with an operation that names its path parameter twice. -/
def repeatedDocument : Text := Text.ofLines [
  "\x7b\"name\": \"Pets\",",
  "\"models\": \x7b\"pet\": \x7b\"fields\": []\x7d\x7d,",
  "\"resources\": \x7b\"pet\": \x7b\"path\": \"/pets\",",
  "\"operations\": [\x7b\"method\": \"GET\",",
  "\"path\": \"/:id\", \"parameters\":",
  "[\x7b\"name\": \"id\", \"type\": \"string\",",
  "\"required\": false\x7d,",
  "\x7b\"name\": \"id\", \"type\": \"string\"\x7d],",
  "\"responses\": \x7b\"200\": \x7b\"type\": \"pet\"\x7d\x7d\x7d]\x7d\x7d\x7d"]

/-- The operation as it is accepted: the first parameter stands in the path and is optional. -/
def repeatedOperation : Service.Operation where
  method := .get
  path := "/pets/:id"
  description := none
  body := none
  parameters := [⟨"id", "string", .path, false, none, none, none, none⟩,
    ⟨"id", "string", .path, true, none, none, none, none⟩]
  responses := [⟨200, "pet", none⟩]

/-- The service that the document is accepted as. -/
def repeatedService : Service where
  name := "Pets"
  key := "pets"
  nameSpace := "com.example.pets.v0"
  organization := "example"
  version := "0.0.1-dev"
  description := none
  baseUrl := none
  imports := []
  headers := []
  enums := []
  unions := []
  models := [⟨"pet", "pets", none, []⟩]
  resources := [⟨"pet", "pets", "/pets", none, [repeatedOperation]⟩]

theorem validate_repeatedDocument :
    (validate {} unreachable repeatedDocument).outcome = .ok (.accepted repeatedService) := by
  decide +kernel

theorem repeatedOperation_fit_iff :
    (validate {} unreachable repeatedDocument).outcome = .ok (.accepted repeatedService) ∧
    (∀ p ∈ repeatedOperation.parameters, p.location = .path → ¬ repeatedOperation.Hides p →
      p.FitsPath repeatedService) ∧
    ((∀ p ∈ repeatedOperation.parameters, p.location = .path → p.FitsPath repeatedService) ↔
      ∀ p ∈ repeatedOperation.parameters, p.location = .path → repeatedOperation.Hides p →
        p.FitsPath repeatedService) ∧
    ((repeatedOperation.parameters.map (·.name)).Nodup →
      ∀ p ∈ repeatedOperation.parameters, p.location = .path → p.FitsPath repeatedService) :=
  ⟨validate_repeatedDocument,
    pathParameters_fit_iff_hidden_fit validate_repeatedDocument
      (r := ⟨"pet", "pets", "/pets", none, [repeatedOperation]⟩)
      (List.mem_singleton_self _) (List.mem_singleton_self _)⟩

/-- Not every path parameter of an accepted service is fit for the path. -/
theorem exists_unfit_pathParameter :
    ∃ s, (validate {} unreachable repeatedDocument).outcome = .ok (.accepted s) ∧
      ∃ r ∈ s.resources, ∃ op ∈ r.operations, ∃ p ∈ op.parameters,
        p.location = .path ∧ ¬ p.FitsPath s := by
  refine ⟨repeatedService, validate_repeatedDocument, _, List.mem_singleton_self _,
    repeatedOperation, List.mem_singleton_self _, _, List.mem_cons_self, rfl, ?_⟩
  rintro ⟨hrequired, -⟩
  exact absurd hrequired (by decide)

end ServiceContract
