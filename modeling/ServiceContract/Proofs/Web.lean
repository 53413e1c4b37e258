import ServiceContract.Proofs.Files.Tree
import ServiceContract.Proofs.Import
import ServiceContract.Proofs.Uri.Split
import ServiceContract.Uri.Check
import ServiceContract.Web

/-!
# Fetching that escapes

A document that cannot be had is `unavailable`, and the check of an import says so in one message.
Two kinds of addresses are no such failures, although they may pass as addresses of imports: those
whose host is not in order, and those of files whose path cannot be looked up (`Escapes`).  Fetching
them stops the check, and nothing else that fetching comes to does (`fetch_escapes_iff`).
-/

namespace ServiceContract.Web

variable {settings : Settings} {files : Files.Tree} {send : Request → Reply} {uri : Text}

/-! ### Where the text comes from -/

/-- The address cannot be fetched from: its host is not in order, or it is one of a file whose path
cannot be looked up. -/
def Escapes (uri : Text) : Prop :=
  ¬ Uri.IsHost (Uri.hostOf uri) ∨
    Uri.schemeOf uri = "file" ∧ ¬ Uri.NamesFile (Uri.pathOf uri)

/-- A fault that is no message of an import. -/
def IsEscape (fault : FetchFault) : Prop := ∀ reason, fault ≠ .unavailable reason

theorem fetchRemote_eq_error {request : Request} {fault : FetchFault}
    (h : fetchRemote send request = .error fault) : ∃ reason, fault = .unavailable reason := by
  unfold fetchRemote at h
  cases hreply : send request with
  | ok text =>
    rw [hreply] at h
    cases h
  | error reason =>
    rw [hreply] at h
    exact ⟨reason, (Except.error.inj h).symm⟩

theorem fetchFile_escapes_iff {path : Text} :
    (∃ fault, fetchFile files path = .error fault ∧ IsEscape fault) ↔
      ∃ c ∈ path, c.IsUnnameable := by
  rw [← Files.Tree.readText_eq_badPath_iff (t := files)]
  unfold fetchFile IsEscape
  cases files.readText path with
  | ok text => simp
  | error fault => cases fault <;> simp

theorem fetch_of_not_isHost (settings : Settings) (files : Files.Tree) (send : Request → Reply)
    (h : ¬ Uri.IsHost (Uri.hostOf uri)) :
    ∃ reason, fetch settings files send uri = .error (.badAddress reason) := by
  obtain ⟨fault, hsplit⟩ := Uri.exists_split_error h
  unfold fetch source
  rw [hsplit]
  exact ⟨_, rfl⟩

theorem fetch_of_isHost (h : Uri.IsHost (Uri.hostOf uri)) : fetch settings files send uri =
    if Uri.schemeOf uri = "file" then fetchFile files (Uri.unescape (Uri.pathOf uri))
    else fetchRemote send ⟨uri, settings.httpTimeout, settings.userAgent⟩ := by
  unfold fetch source
  rw [Uri.split_eq_ok_iff.2 ⟨h, rfl⟩]
  dsimp only
  split_ifs <;> rfl

theorem exists_escape_iff (settings : Settings) (files : Files.Tree) (send : Request → Reply) :
    (∃ fault, fetch settings files send uri = .error fault ∧ IsEscape fault) ↔ Escapes uri := by
  unfold Escapes
  by_cases hhost : Uri.IsHost (Uri.hostOf uri)
  · rw [fetch_of_isHost hhost, or_iff_right (not_not.2 hhost)]
    by_cases hscheme : Uri.schemeOf uri = "file"
    · rw [if_pos hscheme, fetchFile_escapes_iff, Uri.unnameable_unescape_iff]
      simp [hscheme]
    · rw [if_neg hscheme]
      refine iff_of_false ?_ (fun h => hscheme h.1)
      rintro ⟨fault, hfault, hescape⟩
      obtain ⟨reason, rfl⟩ := fetchRemote_eq_error hfault
      exact hescape reason rfl
  · obtain ⟨reason, hfetch⟩ := fetch_of_not_isHost settings files send hhost
    refine iff_of_true ⟨_, hfetch, fun reason h => by cases h⟩ (Or.inl hhost)

/-- Fetching from an address depends on what the web sends only for the requests that it makes. -/
theorem fetch_congr {send' : Request → Reply}
    (h : ∀ request ∈ requests settings uri, send request = send' request) :
    fetch settings files send uri = fetch settings files send' uri := by
  unfold requests at h
  unfold fetch
  cases hsource : source settings uri with
  | error fault => rfl
  | ok found =>
    cases found with
    | file path => rfl
    | web request =>
      rw [hsource] at h
      dsimp only
      rw [fetchRemote, fetchRemote, h request List.mem_cons_self]

/-! ### The check of an import -/

theorem checkText_eq_error_iff {text : Text} :
    (∃ fault, Import.checkText uri text = .error fault) ↔
      ∃ n, Json.HasLongInteger text n ∧ Json.read text = .error (.integerTooLong n) := by
  rw [← Outcome.isOk_eq_false_iff, Import.checkText_isOk_eq_false_iff]
  constructor
  · rintro ⟨n, hread⟩
    exact ⟨n, Json.hasLongInteger_of_read hread, hread⟩
  · rintro ⟨n, -, hread⟩
    exact ⟨n, hread⟩

theorem check_eq_error_iff :
    (∃ fault, ((Import.check uri).run (fetch settings files send)).outcome = .error fault) ↔
      Escapes uri ∨ ∃ text n, fetch settings files send uri = .ok text ∧
        Json.HasLongInteger text n ∧ Json.read text = .error (.integerTooLong n) := by
  rw [← exists_escape_iff settings files send]
  cases h : fetch settings files send uri with
  | ok text =>
    rw [Import.outcome_check_of_ok h, checkText_eq_error_iff]
    simp
  | error fault =>
    cases fault <;> simp [Import.check, Inquiry.run, h, IsEscape]

/-- Fetching yields a text or says why there is none, unless the address escapes.  Each failure that
does not escape is one message of the check of an import, and the check stops exactly at an address
that escapes or at an integer of the fetched text that is too long. -/
theorem fetch_escapes_iff (settings : Settings) (files : Files.Tree) (send : Request → Reply)
    (uri : Text) :
    ((∃ fault, fetch settings files send uri = .error fault ∧ IsEscape fault) ↔ Escapes uri) ∧
    (∀ reason, fetch settings files send uri = .error (.unavailable reason) →
      ((Import.check uri).run (fetch settings files send)).outcome =
        .ok ["Error fetching import[" ++ uri ++ "]: " ++ reason]) ∧
    ((∃ fault, ((Import.check uri).run (fetch settings files send)).outcome = .error fault) ↔
      Escapes uri ∨ ∃ text n, fetch settings files send uri = .ok text ∧
        Json.HasLongInteger text n ∧ Json.read text = .error (.integerTooLong n)) :=
  ⟨exists_escape_iff settings files send,
    fun _ hfetch => Import.outcome_check_of_unavailable hfetch, check_eq_error_iff⟩

/-- A web that cannot be reached. -/
def offline (_ : Request) : Reply := .error "offline"

/-- The check of an import of a file that is missing, and of one whose name cannot be one. -/
theorem check_missing_file :
    fetch {} {} offline "file:///a" =
      .error (.unavailable "[Errno 2] No such file or directory: '/a'") ∧
    ((Import.check "file:///a").run (fetch {} {} offline)).outcome = .ok
      ["Error fetching import[file:///a]: [Errno 2] No such file or directory: '/a'"] ∧
    Uri.problem? "file:///a%00" = none ∧ Escapes "file:///a%00" := by
  have hmissing : fetch {} {} offline "file:///a" =
      .error (.unavailable "[Errno 2] No such file or directory: '/a'") := by decide +kernel
  have hnull : fetch {} {} offline "file:///a%00" = .error (.badPath .nullOctet) := by
    decide +kernel
  have hcheck := (fetch_escapes_iff {} {} offline "file:///a").2.1 _ hmissing
  have hescapes := (fetch_escapes_iff {} {} offline "file:///a%00").1.1
    ⟨_, hnull, fun reason h => by cases h⟩
  exact ⟨hmissing, hcheck, by decide +kernel, hescapes⟩

/-- An address may pass as one of an import although its host is not in order. -/
theorem usable_address_escapes :
    Uri.problem? "http://[::1" = none ∧
    fetch {} {} offline "http://[::1" = .error (.badAddress "Invalid IPv6 URL") ∧
    ((Import.check "http://[::1").run (fetch {} {} offline)).outcome =
      .error (.badAddress "Invalid IPv6 URL") := by
  decide +kernel

end ServiceContract.Web
