import ServiceContract.CommandLine.Run
import ServiceContract.Proofs.Import
import ServiceContract.Proofs.Service.Json
import ServiceContract.Proofs.Text.Encoding

/-!
# Printed services

A run that validates a document and accepts it prints the service as a JSON document, unless a text
of the service holds a surrogate.  What it prints is the print of the service's object and a line
feed: nothing is taken out of it, and a reader takes it back.  So a printed service can itself be
imported (`printed_service_importable`).

Two parts of a run are not the program's own: `Json.Value.print` stands for pydantic's writer of
records, with fields in the order of their declaration, integers in full and null for a double that
is not finite, and `Text.withoutControlSequences` for click's way of printing, which takes control
sequences out of what no terminal shows.
-/

namespace ServiceContract

/-! ### Importing a print -/

/-- The print of a service with short codes is in order as an import. -/
theorem Import.checkText_print {s : Service} (h : s.HasShortCodes) (uri : Text) {rest : Text}
    (hrest : ∀ c ∈ rest, Json.isSpace c = true) :
    Import.checkText uri (s.toJson.print ++ rest) = .ok [] := by
  unfold Import.checkText
  rw [Json.read_print (Service.readable_toJson h) hrest]
  rfl

namespace Json

variable {v : Value}

theorem encodeFault?_eq_none_iff :
    v.encodeFault? = none ↔ ∀ s ∈ v.strings, ∀ c ∈ s, CodePoint.isSurrogate c = false := by
  unfold Value.encodeFault?
  simp only [List.findSome?_eq_none_iff, Text.encodeFault?_eq_none_iff]

/-- The surrogates in a print are those of the strings. -/
theorem isSurrogate_print (h : v.encodeFault? = none) :
    ∀ c ∈ v.print, CodePoint.isSurrogate c = false := by
  intro c hc
  rcases inPrint_printAt 0 v c hc with rfl | ⟨-, hascii | ⟨s, hs, hmem⟩⟩
  · rfl
  · cases c with
    | char c => rfl
    | surrogate index =>
      have hlow : 0xD800 ≤ (CodePoint.surrogate index).toNat := Nat.le_add_right _ _
      omega
  · exact encodeFault?_eq_none_iff.1 h s hs c hmem

theorem escape_not_mem_print (v : Value) : .char '\x1b' ∉ v.print := by
  intro hc
  rcases inPrint_printAt 0 v _ hc with h | ⟨h, -⟩
  · exact absurd h (by decide)
  · exact absurd h (by decide)

end Json

namespace CommandLine

/-- What is printed of a service. -/
def printedService (s : Service) : Printed where
  exitCode := 0
  output := (s.toJson.print ++ Text.ofString "\n").escapeSurrogates
  complaints := ""

/-- The output is the print of the service and a line feed. -/
theorem ofString_printedService {s : Service} (h : s.toJson.encodeFault? = none) :
    Text.ofString (printedService s).output = s.toJson.print ++ Text.ofString "\n" := by
  refine Text.ofString_escapeSurrogates (List.forall_mem_append.2 ⟨Json.isSurrogate_print h, ?_⟩)
  decide

theorem print_report {t : Text} (hescape : .char '\x1b' ∉ t)
    (hsurrogate : ∀ c ∈ t, CodePoint.isSurrogate c = false) :
    Report.print { output := t } = .ok ⟨0, t.escapeSurrogates, ""⟩ := by
  unfold Report.print Text.encode
  rw [Text.withoutControlSequences_eq_self hescape, Text.encodeFault?_eq_none_iff.2 hsurrogate]
  rfl

/-- A service is printed unless it holds a surrogate. -/
theorem print_verdictReport (path : Text) (s : Service) :
    (verdictReport path true (.accepted s) >>= Report.print) =
      match s.toJson.encodeFault? with
      | none => .ok (printedService s)
      | some fault => .error (.serialization fault) := by
  cases h : s.toJson.encodeFault? with
  | some fault => simp only [verdictReport, document, h, if_true, bind, Except.bind]
  | none =>
    have hescape : .char '\x1b' ∉ s.toJson.print ++ Text.ofString "\n" := fun hc =>
      (List.mem_append.1 hc).elim (Json.escape_not_mem_print s.toJson) (by decide)
    have hsurrogate := List.forall_mem_append.2
      ⟨Json.isSurrogate_print h, (by decide : ∀ c ∈ Text.ofString "\n", c.isSurrogate = false)⟩
    simp only [verdictReport, document, h, if_true, bind, Except.bind, pure, Except.pure]
    exact print_report hescape hsurrogate

/-- The run prints the service, unless a text of it holds a surrogate, and what it prints is in
order as an import. -/
structure PrintsImport (s : Service) (run : Except Stop Printed) : Prop where
  succeeds : (∃ printed, run = .ok printed) ↔ s.toJson.encodeFault? = none
  importable : ∀ printed, run = .ok printed → printed.exitCode = 0 ∧
    Text.ofString printed.output = s.toJson.print ++ Text.ofString "\n" ∧
    ∀ (source : Fetch) (uri : Text), source uri = .ok (Text.ofString printed.output) →
      ((Import.check uri).run source).outcome = .ok []

theorem printsImport_verdictReport {s : Service} (h : s.HasShortCodes) (path : Text) :
    PrintsImport s (verdictReport path true (.accepted s) >>= Report.print) := by
  rw [print_verdictReport]
  cases hfault : s.toJson.encodeFault? with
  | some fault => exact ⟨by simp [hfault], by simp⟩
  | none =>
    refine ⟨⟨fun _ => hfault, fun _ => ⟨_, rfl⟩⟩, fun printed hprinted => ?_⟩
    obtain rfl := Except.ok.inj hprinted
    refine ⟨rfl, ofString_printedService hfault, fun source uri hsource => ?_⟩
    rw [ofString_printedService hfault] at hsource
    rw [Import.outcome_check_of_ok hsource]
    exact Import.checkText_print h uri (by decide)

/-- What a run prints of a document is the report on its verdict. -/
theorem print_carryOut_validate {c : Configuration} {fetch : Fetch} {text : Text}
    {verdict : Verdict} {readYaml : Yaml.Reader} {files : Files.Tree} {path : Text}
    {config version : Option Text} {asJson : Bool}
    (hconfig : loadConfiguration readYaml files config version = .ok (.ok c))
    (hread : files.readText path = .ok text)
    (h : (validate c fetch text).outcome = .ok verdict) :
    (carryOut readYaml files fetch (.validate path config version asJson) >>= Report.print) =
      (verdictReport (Files.normalize path) asJson verdict >>= Report.print) := by
  simp only [carryOut, hconfig, validateFile, hread, h, Except.mapError, bind, Except.bind]
  cases verdictReport (Files.normalize path) asJson verdict <;> rfl

/-- The service of an accepted document is printed so that it can be imported, by any run that asks
for it. -/
theorem printed_service_importable {c : Configuration} {fetch : Fetch} {text : Text} {s : Service}
    (h : (validate c fetch text).outcome = .ok (.accepted s)) :
    (∀ path, PrintsImport s (verdictReport path true (.accepted s) >>= Report.print)) ∧
    ∀ (readYaml : Yaml.Reader) (files : Files.Tree) (path : Text) (config version : Option Text),
      loadConfiguration readYaml files config version = .ok (.ok c) →
        files.readText path = .ok text →
          PrintsImport s (carryOut readYaml files fetch (.validate path config version true) >>=
            Report.print) := by
  have hshort := Service.hasShortCodes_of_accepted h
  refine ⟨printsImport_verdictReport hshort, ?_⟩
  intro readYaml files path config version hconfig hread
  rw [print_carryOut_validate hconfig hread h]
  exact printsImport_verdictReport hshort _

/-! ### A run -/

/-- A document with a quote in its name, bounds that are no integers, and a negative code. -/
def cupDocument : Text := Text.ofLines [
  "\x7b\"name\": \"Cups \\\"A\\\" \\u00e9\",",
  "\"models\": \x7b\"cup\": \x7b\"fields\": [\x7b\"name\": \"size\",",
  "\"type\": \"double\", \"minimum\": 0.1, \"maximum\": 1e300\x7d]\x7d\x7d,",
  "\"resources\": \x7b\"cup\": \x7b\"path\": \"/cups\",",
  "\"operations\": [\x7b\"method\": \"GET\",",
  "\"responses\": \x7b\"-200\": \x7b\"type\": \"cup\"\x7d\x7d\x7d]\x7d\x7d\x7d"]

/-- The service that the document is accepted as. -/
def cupService : Service where
  name := "Cups \"A\" é"
  key := "cups-a"
  nameSpace := "com.example.cups_a.v0"
  organization := "example"
  version := "0.0.1-dev"
  description := none
  baseUrl := none
  imports := []
  headers := []
  enums := []
  unions := []
  models := [⟨"cup", "cups", none, [⟨"size", "double", true, none, none, none,
    some (.ofDecimal false 1 (-1)), some (.ofDecimal false 1 300)⟩]⟩]
  resources := [⟨"cup", "cups", "/cups", none,
    [⟨.get, "/cups", none, none, [], [⟨-200, "cup", none⟩]⟩]⟩]

theorem validate_cupDocument :
    (validate {} unreachable cupDocument).outcome = .ok (.accepted cupService) := by
  decide +kernel

/-- A file with the document. -/
def cupFiles : Files.Tree where
  files := [([[0x64]], cupDocument.flatMap CodePoint.nameOctets)]

theorem readText_cupFiles : cupFiles.readText "/d" = .ok cupDocument := by
  decide +kernel

/-- A reader that takes no text for YAML. -/
def noYaml : Yaml.Reader := fun _ => .error .malformed

theorem cupService_importable :
    (validate {} unreachable cupDocument).outcome = .ok (.accepted cupService) ∧
    ∃ printed, (carryOut noYaml cupFiles unreachable (.validate "/d" none none true) >>=
      Report.print) = .ok printed ∧ printed.exitCode = 0 ∧
        ∀ (source : Fetch) (uri : Text), source uri = .ok (Text.ofString printed.output) →
          ((Import.check uri).run source).outcome = .ok [] := by
  have hrun := (printed_service_importable validate_cupDocument).2 noYaml cupFiles "/d" none none
    rfl readText_cupFiles
  obtain ⟨printed, hprinted⟩ := hrun.succeeds.2 (by decide +kernel)
  obtain ⟨hcode, -, hcheck⟩ := hrun.importable printed hprinted
  exact ⟨validate_cupDocument, printed, hprinted, hcode, hcheck⟩

end CommandLine

end ServiceContract
