import ServiceContract.Files.Tree
import ServiceContract.Inquiry
import ServiceContract.Settings
import ServiceContract.Uri.Split

/-!
# Fetching documents

A document with a `file` address is read from the files at hand, any other is asked for over the
web, which sends a text or gives a reason why it does not.
-/

namespace ServiceContract

namespace Web

/-- A question to the web. -/
structure Request where
  uri : Text
  timeout : Number.Binary64
  userAgent : Text
  deriving DecidableEq, Repr

/-- The headers of a request. -/
def Request.headers (r : Request) : List (Text × Text) :=
  [("User-Agent", r.userAgent), ("Accept", "application/json")]

/-- What comes back: the text of the response, or the reason why there is none. -/
abbrev Reply := Except Text Text

/-- Where the text at an address is to be had. -/
inductive Source where
  | file (path : Text)
  | web (request : Request)
  deriving DecidableEq, Repr

/-- The source of an address. -/
def source (settings : Settings) (uri : Text) : Except FetchFault Source :=
  match Uri.split uri with
  | .error fault => .error (.badAddress fault.message)
  | .ok parts =>
    if parts.scheme = "file" then .ok (.file (Uri.unescape parts.path))
    else .ok (.web ⟨uri, settings.httpTimeout, settings.userAgent⟩)

/-- The questions that fetching an address puts to the web. -/
def requests (settings : Settings) (uri : Text) : List Request :=
  match source settings uri with
  | .ok (.web request) => [request]
  | _ => []

/-- The text of the file at a path. -/
def fetchFile (files : Files.Tree) (path : Text) : Answer :=
  match files.readText path with
  | .ok text => .ok text
  | .error (.badPath fault) => .error (.badPath fault)
  | .error fault => .error (.unavailable fault.message)

/-- The text that the web sends. -/
def fetchRemote (send : Request → Reply) (request : Request) : Answer :=
  (send request).mapError FetchFault.unavailable

/-- Fetches from the files at hand and, by `send`, from the web. -/
def fetch (settings : Settings) (files : Files.Tree) (send : Request → Reply) : Fetch := fun uri =>
  match source settings uri with
  | .error fault => .error fault
  | .ok (.file path) => fetchFile files path
  | .ok (.web request) => fetchRemote send request

end Web

end ServiceContract
