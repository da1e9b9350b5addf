import GraphPath.Settings.Basic
import GraphPath.Transport.Basic
import GraphPath.Transport.Status

/-!
# The transport over HTTP

Each exchange is one request with the program as its body, sent to a URL that is fixed
when the transport is made. Nothing is sent twice. The connection is opened by the first
exchange after it was closed, or on demand.

The other end of the connection is a `Peer`: it keeps the requests that reach it and
answers each of them with the next of its replies.

* `Request`, `Reply`, `Peer` — what is sent, what comes back, and the other end;
* `HttpTransport` — the state; `HttpTransport.ofSettings` — a transport for settings;
* `HttpTransport.exchange` — one exchange.
-/

namespace GraphPath

/-- **A request.** -/
structure Request where
  url : Text
  body : Bytes
deriving DecidableEq, Repr

namespace Request

/-- The method of every request. -/
def method : Text := "POST"

/-- The type of the body of every request. -/
def contentType : Text := "text/plain; charset=utf-8"

/-- The length of the body. -/
def contentLength (request : Request) : Nat := request.body.length

end Request

/-- **What comes back**: an answer, a failure on the way, or the complaint that the URL
cannot be used. -/
inductive Reply where
  | answer (status : Int) (body : Bytes)
  | failure (kind : FailureKind) (message : Text)
  | badUrl (message : Text)
deriving DecidableEq, Repr

/-- **The other end**: the requests that reached it, the replies to come, and the reply
when they are used up. -/
structure Peer where
  requests : List Request
  replies : List Reply
  standing : Reply

/-- The reply to a request. -/
def Peer.answer (peer : Peer) (request : Request) : Reply × Peer :=
  let peer := { peer with requests := peer.requests ++ [request] }
  match peer.replies with
  | reply :: replies => (reply, { peer with replies := replies })
  | [] => (peer.standing, peer)

/-- **A transport over HTTP.** -/
structure HttpTransport where
  url : Text
  isConnected : Bool
  peer : Peer

namespace HttpTransport

/-- **A transport for settings**, perhaps with another version of the interface. -/
def ofSettings (settings : Settings) (version : Option ApiVersion) (peer : Peer) :
    HttpTransport := ⟨settings.url version, false, peer⟩

/-- Opening the connection, if it is not open. -/
def connect (http : HttpTransport) : HttpTransport := { http with isConnected := true }

/-- Closing the connection, if it is open. -/
def close (http : HttpTransport) : HttpTransport := { http with isConnected := false }

/-! ### Errors -/

/-- An exchange that failed without an answer. -/
def unanswered (url : Text) (kind : FailureKind) (message : Text) : TransportError where
  message :=
    if kind.isTimeout then "Request to " ++ url ++ " timed out"
    else "Request to " ++ url ++ " failed: " ++ message
  url := some url
  status := none
  reason := none
  body := none
  cause := some kind

/-- An exchange whose answer is no success. -/
def unsuccessful (url : Text) (status : Int) (body : Bytes) : TransportError where
  message := "Cayley answered " ++ Text.ofInt status ++ " " ++ Status.reason status
  url := some url
  status := some status
  reason := some (Status.reason status)
  body := some body
  cause := none

/-! ### Exchanges -/

/-- **The request for a program**, if it has one. -/
def requestFor (url program : Text) : Except ExchangeFault (Request × Url) :=
  match Utf8.encode program with
  | .error fault => .error (.notEncodable fault)
  | .ok body =>
    match Url.ofText url with
    | .error (.notEncodable fault) => .error (.notEncodable fault)
    | .error fault => .error (.badUrl fault.message)
    | .ok target => .ok (⟨target.toText, body⟩, target)

/-- **What a reply means**: the body of a success, and an error for everything else. An
answer cannot be taken from a URL without a host, and no error tells of a status with too
many digits. -/
def outcomeOf (url : Text) (target : Url) : Reply → Except ExchangeFault Bytes
  | .badUrl message => .error (.badUrl message)
  | .failure kind message => .error (.failed (unanswered url kind message))
  | .answer status body =>
    -- whatever the status is: the answer itself cannot be handled
    if !target.hasHost then .error (.noHost target.toText)
    else if Status.isSuccess status then .ok body
    else if Json.isOversized status then .error (.unwritable .tooManyDigits)
    else .error (.failed (unsuccessful url status body))

/-- The record of the start of an exchange. -/
def startRecord (url program : Text) (correlation : Option Text) : LogRecord where
  level := .debug
  module := "transport"
  message := "Executing query"
  context := .object [("url", .text url), ("query", .text program)]
  correlation := correlation
  failure := none

/-- The record of the end of an exchange, unless the program or the URL was at fault. -/
def endRecord (url : Text) (outcome : Except ExchangeFault Bytes) (correlation : Option Text) :
    List LogRecord :=
  match outcome with
  | .ok _ =>
    [⟨.debug, "transport", "Request to " ++ url ++ " succeeded", .null, correlation, none⟩]
  | .error (.failed error) =>
    let context : LogValue := match error.status with
      | some status => .object [("url", .text url), ("status_code", .int status)]
      | none => .null
    [⟨.warning, "transport", error.message, context, correlation, none⟩]
  | .error _ => []

/-- **One exchange.** -/
def exchange (http : HttpTransport) (correlation : Option Text) (program : Text) :
    Exchange HttpTransport :=
  let http := http.connect
  let start := startRecord http.url program correlation
  -- the connection is open, even if nothing can be sent
  match requestFor http.url program with
  | .error fault => ⟨.error fault, http, [start]⟩
  | .ok (request, target) =>
    let (reply, peer) := http.peer.answer request
    let outcome := outcomeOf http.url target reply
    ⟨outcome, { http with peer := peer }, start :: endRecord http.url outcome correlation⟩

instance : Transport HttpTransport where
  exchange := exchange
  close := close

end HttpTransport

end GraphPath
