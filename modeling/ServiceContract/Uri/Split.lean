import ServiceContract.Text.Utf8
import ServiceContract.Uri.Host

/-!
# Taking addresses apart

An address is a scheme before a colon, a host after two slashes, a path, a query after a question
mark and a fragment after a number sign; all but the path may be absent.  Control characters and
spaces before the address and tabulators and line ends in it do not count.
-/

namespace ServiceContract.Uri

/-- The parts of an address that name a document: the scheme in small letters, and the path. -/
structure Parts where
  scheme : Text
  path : Text
  deriving DecidableEq, Repr

/-- A control character, or the space. -/
def isControlOrSpace (c : CodePoint) : Bool := c.toNat ≤ 32

/-- The part of an address that counts. -/
def significant (uri : Text) : Text :=
  (uri.dropWhile isControlOrSpace).filter fun c => !(c == '\t' || c == '\r' || c == '\n')

/-- A character of a scheme after the first. -/
def isSchemeChar (c : CodePoint) : Bool :=
  c.isAlphanum || c == '+' || c == '-' || c == '.'

/-- The scheme of an address, in small letters, and what follows its colon. -/
def splitScheme (uri : Text) : Text × Text :=
  let scheme := uri.takeWhile isSchemeChar
  match uri.drop scheme.length with
  | .char ':' :: rest =>
    if scheme.head?.any CodePoint.isAlpha then (Text.toLower scheme, rest) else ([], uri)
  | _ => ([], uri)

/-- The host of an address without its scheme, and what follows it. -/
def splitHost : Text → Text × Text
  | .char '/' :: .char '/' :: rest =>
    let inHost := fun c : CodePoint => !(c == '/' || c == '?' || c == '#')
    (rest.takeWhile inHost, rest.dropWhile inHost)
  | rest => ([], rest)

/-- The parts of an address. -/
def split (uri : Text) : Except SplitFault Parts :=
  let (scheme, rest) := splitScheme (significant uri)
  let (host, rest) := splitHost rest
  match bracketsFault? host with
  | some fault => .error fault
  | none =>
    if host.any disguisedDelimiters.contains then .error (.disguisedDelimiter host)
    else .ok ⟨scheme, (rest.takeWhile (· != .char '#')).takeWhile (· != .char '?')⟩

/-! ### Percent signs -/

/-- The octets that ASCII characters stand for: two hexadecimal digits after a percent sign name
one octet. -/
def octetsOf : Text → List UInt8
  | [] => []
  | .char '%' :: a :: b :: rest =>
    match Text.hexNumber? [a, b] with
    | some octet => UInt8.ofNat octet :: octetsOf rest
    | none => 37 :: octetsOf (a :: b :: rest)
  | c :: rest => UInt8.ofNat c.toNat :: octetsOf rest

/-- The text in which other code points stand for themselves and a run of ASCII characters for
encoded text. -/
def unescapeRuns : (run : Text) → Text → Text
  | run, [] => Text.decodeLossy (octetsOf run.reverse)
  | run, c :: rest =>
    if c.toNat < 128 then unescapeRuns (c :: run) rest
    else Text.decodeLossy (octetsOf run.reverse) ++ c :: unescapeRuns [] rest

/-- The text that a path with percent signs stands for. -/
def unescape (path : Text) : Text := unescapeRuns [] path

example : unescape "a%20b%C3%A9%E9%zz" = "a bé\ufffd%zz" := by decide +kernel

end ServiceContract.Uri
