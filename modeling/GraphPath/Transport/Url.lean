import GraphPath.Decimal.Digit
import GraphPath.Domain.Name
import GraphPath.Text.Case
import GraphPath.Text.Quoted
import GraphPath.Text.Utf8
import GraphPath.Transport.Host

/-!
# URLs of requests

A request is not sent to the text of an endpoint but to the URL that the text means: its
host is in small letters, the port `80` is left out, dot segments of the path are resolved,
and characters that a component cannot hold are written as percent escapes. A text can also
mean no URL at all.

* `Url` — a URL of the scheme `http` by its components;
* `Url.ofText` — the URL of a text, or a `UrlFault`;
* `Url.toText` — the text of a URL. Without a host there is no authority, and only path
  and query remain.
-/

namespace GraphPath

/-- **Why a text is no URL.** -/
inductive UrlFault where
  | tooLong
  | control (c : CodePoint) (position : Nat)
  | badIpv4 (host : Text)
  | badIpv6 (host : Text)
  | badName (host : Text)
  | badPort (port : Text)
  | notEncodable (fault : Utf8.EncodeFault)
deriving DecidableEq, Repr

/-- The wording of a fault. -/
def UrlFault.message : UrlFault → Text
  | .tooLong => "URL too long"
  | .control c position =>
    "Invalid non-printable ASCII character in URL, " ++ Text.quoted [c] ++ " at position "
      ++ Text.ofNat position ++ "."
  | .badIpv4 host => "Invalid IPv4 address: " ++ host.quoted
  | .badIpv6 host => "Invalid IPv6 address: " ++ host.quoted
  | .badName host => "Invalid IDNA hostname: " ++ host.quoted
  | .badPort port => "Invalid port: " ++ port.quoted
  | .notEncodable fault => fault.message

/-- **A URL** of the scheme `http`, its components in canonical form. -/
structure Url where
  userinfo : Text
  host : Text
  port : Option Int
  path : Text
  query : Option Text
  fragment : Option Text
deriving DecidableEq, Repr

namespace Url

/-- The longest text of a URL. -/
def lengthLimit : Nat := 65536

/-! ### Percent escapes -/

/-- A code point by the percent escapes of its bytes. -/
def escaped (c : CodePoint) : Except UrlFault Text :=
  match Utf8.encode [c] with
  | .ok bytes => .ok (bytes.flatMap fun b => .char '%' :: (Text.ofHex 2 b.toNat).upper)
  | .error fault => .error (.notEncodable fault)

/-- **Escaping** all code points outside a class. -/
def escape (isSafe : CodePoint → Bool) : Text → Except UrlFault Text
  | [] => .ok []
  | c :: rest => do
    let front ← if isSafe c then .ok [c] else escaped c
    .ok (front ++ (← escape isSafe rest))

/-- A visible ASCII character that is not among some others. -/
def isVisibleExcept (others : String) (c : CodePoint) : Bool :=
  0x20 < c.toNat && c.toNat < 0x7F && !(Text.ofString others).contains c

/-- What a query can hold. -/
def isQueryPoint : CodePoint → Bool := isVisibleExcept "\"#<>"

/-- What a fragment can hold. -/
def isFragmentPoint : CodePoint → Bool := isVisibleExcept "\"<>`"

/-- What a path can hold. -/
def isPathPoint : CodePoint → Bool := isVisibleExcept "\"#<>?`\x7b\x7d"

/-- What the user information can hold. -/
def isUserinfoPoint : CodePoint → Bool := isVisibleExcept "\"#<>?`\x7b\x7d/;=@[\\]^|"

/-- What a name of ASCII characters can hold. -/
def isNamePoint : CodePoint → Bool := isVisibleExcept "#/:<>?@[]^"

/-! ### Components -/

/-- **The host** in canonical form: an address, a name of ASCII characters, or the ASCII form
of a domain name. An address of version 6 loses its brackets. -/
def canonicalHost (host : Text) : Except UrlFault Text :=
  -- four runs of digits are never taken for a name
  if Host.looksLikeIpv4 host then
    if Host.isIpv4 host then .ok host else .error (.badIpv4 host)
  else if host.head? = some (.char '[') ∧ host.getLast? = some (.char ']') then
    let address := (host.drop 1).dropLast
    if Host.isIpv6 address then .ok address else .error (.badIpv6 host)
  else if host.all (·.toNat < 128) then escape isNamePoint host.lower
  -- a name that is not ASCII becomes labels of ASCII, or is refused
  else match DomainName.toAscii? host.lowercase with
    | some ascii => .ok ascii
    | none => .error (.badName host)

/-- The port that goes without saying. -/
def defaultPort : Int := 80

/-- **The port**, if it has to be said. -/
def canonicalPort (port : Text) : Except UrlFault (Option Int) :=
  if port.isEmpty then .ok none
  else match port.toInt? with
    | some n => .ok (if n = defaultPort then none else some n)
    | none => .error (.badPort port)

/-- The segments of a path with dot segments resolved; `done` are those before, the last
one first. -/
def resolveFrom (done : List Text) : List Text → List Text
  | [] => done.reverse
  | segment :: segments =>
    if segment = "." then resolveFrom done segments
    else if segment = ".." then
      -- the empty segment in front of the first slash stays
      resolveFrom (if done = [[]] then done else done.drop 1) segments
    else resolveFrom (segment :: done) segments

/-- **A path without dot segments.** -/
def resolveDots (path : Text) : Text :=
  Text.join "/" (resolveFrom [] (Text.splitOn (.char '/') path))

/-- The host at the front of a text, and what is behind it: either up to the last closing
bracket, or up to a colon. -/
def splitHost (t : Text) : Text × Text :=
  let behind : Text := t.reverse.dropWhile (· ≠ .char ']')
  -- brackets may enclose colons, so the last closing one counts
  if t.head? = some (.char '[') ∧ behind ≠ [] then
    (behind.reverse, t.drop behind.length)
  else t.span fun (c : CodePoint) => c != .char ':' && c != .char '@'

/-- The user information at the front of an authority, and what is behind it. -/
def splitUserinfo (authority : Text) : Text × Text :=
  let behind := authority.reverse.dropWhile (· ≠ .char '@')
  ((behind.drop 1).reverse, authority.drop behind.length)

/-- The query in front of a fragment, if there is one, and what is behind it. -/
def splitQuery (t : Text) : Option Text × Text :=
  match t with
  | .char '?' :: rest => (some (rest.takeWhile (· != .char '#')), rest.dropWhile (· != .char '#'))
  | _ => (none, t)

/-- The path, query and fragment behind an authority. -/
def splitPath (t : Text) : Text × Option Text × Option Text :=
  let (path, rest) := t.span fun c => c != .char '?' && c != .char '#'
  let (query, rest) := splitQuery rest
  (path, query, if rest.isEmpty then none else some (rest.drop 1))

/-- A component that may be missing, escaped. -/
def escapeSome (isSafe : CodePoint → Bool) : Option Text → Except UrlFault (Option Text)
  | none => .ok none
  | some t => do .ok (some (← escape isSafe t))

/-- The scheme in front of every URL. -/
def scheme : Text := "http://"

/-- The first control character of a text, with its position. -/
def control? (t : Text) : Option UrlFault :=
  let isControl (c : CodePoint) : Bool := c.toNat < 0x20 || c.toNat == 0x7F
  match t.find? isControl with
  | some c => some (.control c (t.takeWhile (!isControl ·)).length)
  | none => none

/-- **The URL of a text** that starts with the scheme. -/
def ofText (t : Text) : Except UrlFault Url := do
  if lengthLimit < t.length then .error .tooLong
  else match control? t with
  | some fault => .error fault
  | none =>
    let (authority, rest) := (t.drop scheme.length).span fun c =>
      c != .char '/' && c != .char '?' && c != .char '#'
    let (userinfo, rest') := splitUserinfo authority
    let (host, behind) := splitHost rest'
    -- whatever stands behind the host is a port, with a colon in front or without
    let port := if behind.head? = some (.char ':') then behind.drop 1 else behind
    let (path, query, fragment) := splitPath rest
    -- the checks come in this order, and the first fault counts
    let userinfo ← escape isUserinfoPoint userinfo
    let host ← canonicalHost host
    let port ← canonicalPort port
    let path ← escape isPathPoint (resolveDots path)
    let query ← escapeSome isQueryPoint query
    let fragment ← escapeSome isFragmentPoint fragment
    .ok ⟨userinfo, host, port, path, query, fragment⟩

/-! ### Writing -/

/-- Whether a URL says where to send a request. -/
def hasHost (url : Url) : Bool := !url.host.isEmpty

/-- The authority of a URL. -/
def authority (url : Url) : Text :=
  let userinfo : Text := if url.userinfo.isEmpty then [] else url.userinfo ++ "@"
  let host : Text := if url.host.contains (.char ':') then "[" ++ url.host ++ "]" else url.host
  let port : Text := match url.port with
    | some n => ":" ++ Text.ofInt n
    | none => []
  userinfo ++ host ++ port

/-- A component that may be missing, behind its mark. -/
def marked (mark : Text) : Option Text → Text
  | some t => mark ++ t
  | none => []

/-- **The text of a URL.** -/
def toText (url : Url) : Text :=
  if url.hasHost then
    scheme ++ url.authority ++ url.path ++ marked "?" url.query ++ marked "#" url.fragment
  else
    -- a path that begins with several slashes would read as an authority
    "/" ++ (url.path ++ marked "?" url.query).dropWhile (· = .char '/')

end Url

end GraphPath
