import GraphPath.Text.CodePoint

/-!
# The query endpoint

Where programs are sent: one URL per host, port and version of the interface.

* `ApiVersion` — the versions that have a name;
* `Endpoint.url` — the URL.
-/

namespace GraphPath

/-- **A version of the interface** that has a name. The default is the first. -/
inductive ApiVersion where
  | v1
deriving DecidableEq, Repr

namespace ApiVersion

/-- The segment of a version in a URL. -/
def segment : ApiVersion → Text
  | .v1 => "v1"

/-- The version that is used unless another is asked for. -/
def default : ApiVersion := .v1

/-- The version of a constant. -/
def ofName? (name : Text) : Option ApiVersion :=
  if name = "V1" ∨ name = "DEFAULT" then some .v1 else none

end ApiVersion

namespace Endpoint

/-- **The URL** that programs are sent to. -/
def url (host port version : Text) : Text :=
  "http://" ++ host ++ ":" ++ port ++ "/api/" ++ version ++ "/query/gremlin"

end Endpoint

end GraphPath
