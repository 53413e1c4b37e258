import ServiceContract.Proofs.Datatype.Name
import ServiceContract.Proofs.Service.Check
import ServiceContract.Proofs.Validation.Clean

/-!
# The names of declared types

No two enums, models or unions of an accepted service have one name.  The names themselves are
under no rule: they are the keys of the document as they stand.  So a declaration can have a name
that no label reaches, since it has blanks at its ends or reads as a list or a map, and one that
labels give to a primitive type.  All other declarations are denoted by their names
(`accepted_declaration_denoted_iff`).
-/

namespace ServiceContract

variable {c : Configuration} {fetch : Fetch} {s : Service}

/-- Read as a label against the declarations of the service, the name denotes the scalar type of
the kind that has this name. -/
def Service.Denotes (s : Service) (name : Text) (kind : TypeKind) : Prop :=
  s.declarations.resolveText? name = some (.scalar ⟨kind, name⟩)

/-- A bare name that no primitive type has. -/
def IsUnambiguous (name : Text) : Prop :=
  Label.IsBare name ∧ ∀ p : Primitive, p.name ≠ name

/-- In an accepted service the name of an enum, a model or a union denotes that very declaration
exactly when it is unambiguous. -/
theorem accepted_declaration_denoted_iff {text : Text}
    (h : (validate c fetch text).outcome = .ok (.accepted s)) :
    (∀ e ∈ s.enums, s.Denotes e.name .enumeration ↔ IsUnambiguous e.name) ∧
    (∀ m ∈ s.models, s.Denotes m.name .model ↔ IsUnambiguous m.name) ∧
    ∀ u ∈ s.unions, s.Denotes u.name .union ↔ IsUnambiguous u.name := by
  obtain ⟨_, _, -, -, -, -, -, herrors⟩ := validate_eq_accepted_iff.1 h
  have hnodup := Service.typeNameErrors_eq_nil_iff.1 (Service.errors_eq_nil_iff.1 herrors).1
  refine ⟨fun e he => ?_, fun m hm => ?_, fun u hu => ?_⟩
  · have hdeclared : e.name ∈ s.declarations.enums := List.mem_map_of_mem he
    exact Declarations.resolveText?_declared_iff hnodup (.enumeration hdeclared)
  · have hdeclared : m.name ∈ s.declarations.models := List.mem_map_of_mem hm
    exact Declarations.resolveText?_declared_iff hnodup (.model hdeclared)
  · have hdeclared : u.name ∈ s.declarations.unions := List.mem_map_of_mem hu
    exact Declarations.resolveText?_declared_iff hnodup (.union hdeclared)

theorem petsService_declarations :
    (validate {} unreachable petsDocument).outcome = .ok (.accepted petsService) ∧
    (∀ e ∈ petsService.enums, petsService.Denotes e.name .enumeration ↔ IsUnambiguous e.name) ∧
    (∀ m ∈ petsService.models, petsService.Denotes m.name .model ↔ IsUnambiguous m.name) ∧
    ∀ u ∈ petsService.unions, petsService.Denotes u.name .union ↔ IsUnambiguous u.name :=
  ⟨validate_petsDocument, accepted_declaration_denoted_iff validate_petsDocument⟩

/-- A document with five enums whose names are ambiguous, each for another reason. -/
def ambiguousDocument : Text := Text.ofLines [
  "\x7b\"name\": \"Pets\", \"enums\":",
  "\x7b\"string\": \x7b\"values\": [\x7b\"name\": \"x\"\x7d]\x7d,",
  "\" a\": \x7b\"values\": [\x7b\"name\": \"x\"\x7d]\x7d,",
  "\"[a]\": \x7b\"values\": [\x7b\"name\": \"x\"\x7d]\x7d,",
  "\"map\": \x7b\"values\": [\x7b\"name\": \"x\"\x7d]\x7d,",
  "\"map[a]\": \x7b\"values\": [\x7b\"name\": \"x\"\x7d]\x7d\x7d\x7d"]

/-- The service that the document is accepted as. -/
def ambiguousService : Service where
  name := "Pets"
  key := "pets"
  nameSpace := "com.example.pets.v0"
  organization := "example"
  version := "0.0.1-dev"
  description := none
  baseUrl := none
  imports := []
  headers := []
  enums := [⟨"string", "strings", none, [⟨"x", none⟩]⟩, ⟨" a", " as", none, [⟨"x", none⟩]⟩,
    ⟨"[a]", "[a]s", none, [⟨"x", none⟩]⟩, ⟨"map", "maps", none, [⟨"x", none⟩]⟩,
    ⟨"map[a]", "map[a]s", none, [⟨"x", none⟩]⟩]
  unions := []
  models := []
  resources := []

/-- Not every declaration of an accepted service is denoted by its name. -/
theorem exists_declaration_not_denoted :
    ∃ s, (validate {} unreachable ambiguousDocument).outcome = .ok (.accepted s) ∧
      s.enums.map (·.name) = ["string", " a", "[a]", "map", "map[a]"] ∧
      ∀ e ∈ s.enums, ¬ s.Denotes e.name .enumeration := by
  refine ⟨ambiguousService, by decide +kernel, rfl, ?_⟩
  unfold Service.Denotes
  decide

end ServiceContract
