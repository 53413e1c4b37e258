import ServiceContract.Number.Numeral
import ServiceContract.Text.Hex
import ServiceContract.Text.Pieces
import ServiceContract.Text.Quoted

/-!
# Hosts in addresses

A host in square brackets has to be an IPv6 address or an address of a later version.  An IPv6
address has eight groups of up to four hexadecimal digits; one run of groups may be left out, and
the last two may be written as an IPv4 address.  A user name before the last at sign may hold
brackets too, and then the host has to be such an address even without brackets of its own.
Elsewhere the only condition is that no character is a compatibility form of one of the delimiters
`/?#@:`.
-/

namespace ServiceContract.Uri

/-- Why an address cannot be taken apart. -/
inductive SplitFault where
  /-- A bracket has no partner, or there is more than a port beside the brackets of a host. -/
  | strayBracket
  /-- The text in brackets is no address. -/
  | notAnAddress (host : Text)
  /-- The text in brackets is an IPv4 address. -/
  | bracketedIPv4
  /-- The text in brackets is a malformed address of a later version. -/
  | laterVersion
  /-- The host holds a compatibility form of a delimiter. -/
  | disguisedDelimiter (host : Text)
  deriving DecidableEq, Repr

/-- The wording of a fault. -/
def SplitFault.message : SplitFault → Text
  | strayBracket => "Invalid IPv6 URL"
  | notAnAddress host =>
    host.quoted ++ " does not appear to be an IPv4 or IPv6 address"
  | bracketedIPv4 => "An IPv4 address cannot be in brackets"
  | laterVersion => "IPvFuture address is invalid"
  | disguisedDelimiter host =>
    "netloc '" ++ host ++ "' contains invalid characters under NFKC normalization"

/-- A decimal number up to 255 without leading zeros. -/
def isOctet (t : Text) : Bool :=
  !t.isEmpty && t.all CodePoint.isDigit && t.length ≤ 3 &&
    (t == "0" || t.head? != some (.char '0')) && Number.digitsValue t ≤ 255

/-- Four octets with points between them. -/
def isIPv4 (t : Text) : Bool :=
  let octets := Text.pieces (.char '.') t
  octets.length == 4 && octets.all isOctet

/-- One to four hexadecimal digits. -/
def isGroup (t : Text) : Bool :=
  !t.isEmpty && t.length ≤ 4 && t.all CodePoint.isHexDigit

/-- The pieces between colons with an IPv4 address at the end counted as two groups. -/
def withoutIPv4 (pieces : List Text) : Option (List Text) :=
  match pieces.getLast? with
  | some last =>
    if last.contains '.' then
      if isIPv4 last then some (pieces.dropLast ++ (["0", "0"] : List Text)) else none
    else some pieces
  | none => some pieces

/-- Pieces between colons that make an IPv6 address: eight groups, or fewer around one place where
groups are left out. -/
def areGroups (pieces : List Text) : Bool :=
  let inner := pieces.drop 1 |>.dropLast
  let gaps := inner.filter (·.isEmpty)
  if 9 < pieces.length then false
  else if gaps.isEmpty then pieces.length == 8 && pieces.all isGroup
  else
    let before := pieces.takeWhile (!·.isEmpty)
    let (before, rest) :=
      if before.isEmpty then ([], pieces.drop 1) else (before, pieces.drop before.length)
    let after := rest.drop 1
    let after := if after = [[]] then [] else after
    gaps.length == 1 && rest.head? == some [] && after.all isGroup && before.all isGroup &&
      before.length + after.length < 8

/-- An IPv6 address, with or without the name of a zone after a percent sign. -/
def isIPv6 (t : Text) : Bool :=
  let address := t.takeWhile (· != .char '%')
  let zone := t.drop address.length
  let pieces := Text.pieces (.char ':') address
  (zone.isEmpty || (zone.length > 1 && !(zone.drop 1).contains '%')) && 3 ≤ pieces.length &&
    (withoutIPv4 pieces).any areGroups

/-- An address of a later version: `v`, its number in hexadecimal digits, a point, and a rest. -/
def isLaterVersion : Text → Bool
  | .char 'v' :: rest =>
    match rest.dropWhile CodePoint.isHexDigit with
    | .char '.' :: tail =>
      rest.head?.any CodePoint.isHexDigit && !tail.isEmpty && !tail.contains '\n'
    | _ => false
  | _ => false

/-- What is wrong with the text between square brackets. -/
def bracketFault? (host : Text) : Option SplitFault :=
  if host.head? = some (.char 'v') then if isLaterVersion host then none else some .laterVersion
  else if isIPv4 host then some .bracketedIPv4
  else if isIPv6 host then none
  else some (.notAnAddress host)

/-- The compatibility forms of delimiters. -/
def disguisedDelimiters : Text :=
  "⁇⁈⁉℀℁℅℆⩴︓︖﹕﹖﹟﹫＃／：？＠"

/-- What is wrong with a host and its port where brackets are in use. -/
def addressFault? (address : Text) : Option SplitFault :=
  let before := address.takeWhile (· != .char '[')
  match address.drop before.length with
  | [] => bracketFault? (address.takeWhile (· != .char ':'))
  | _ :: bracketed =>
    let host := bracketed.takeWhile (· != .char ']')
    let port := bracketed.drop (host.length + 1)
    if before.isEmpty && port.head?.all (· == .char ':') then bracketFault? host
    else some .strayBracket

/-- What is wrong with the brackets of a host, with its user name and its port. -/
def bracketsFault? (host : Text) : Option SplitFault :=
  match host.contains '[', host.contains ']' with
  | false, false => none
  | true, true => addressFault? (host.reverse.takeWhile (· != .char '@')).reverse
  | _, _ => some .strayBracket

example : isIPv6 "::1" && isIPv6 "1:2:3:4:5:6:7::" && isIPv6 "::1.2.3.4%a" &&
    !isIPv6 "1:2:3:4:5:6:7" && !isIPv6 ":::" && !isIPv6 "1::2::3" := by decide +kernel

example : bracketsFault? "[x]@[::1]:80" = none ∧ bracketsFault? "a[::1]" = some .strayBracket ∧
    bracketsFault? "[::1]@h:1" = some (.notAnAddress "h") := by decide +kernel

end ServiceContract.Uri
