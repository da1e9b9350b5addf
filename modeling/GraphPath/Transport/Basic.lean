import GraphPath.Log.Record
import GraphPath.Text.Utf8
import GraphPath.Transport.Url

/-!
# Transports

A transport sends a program and brings back the body of the answer. What it is made of is
left open: a transport is any state with an operation that exchanges a program for a body
or a fault, and one that gives up its resources.

* `TransportError` — an exchange that failed, with what is known about it;
* `ExchangeFault` — why there is no body: such an error, a program or URL that could not be
  sent at all, or an answer that cannot be told of;
* `Exchange` — the outcome of an exchange with the state and the log records it leaves;
* `Transport` — the operations.
-/

namespace GraphPath

/-- **What can go wrong on the way** to the server and back. -/
inductive FailureKind where
  | unspecified
  | timeout
  | connectTimeout
  | readTimeout
  | writeTimeout
  | poolTimeout
  | request
  | transport
  | network
  | connect
  | read
  | write
  | close
  | protocol
  | localProtocol
  | remoteProtocol
  | proxy
  | unsupportedProtocol
  | decoding
  | tooManyRedirects
deriving DecidableEq, Repr

/-- Whether a failure is that of a deadline. -/
def FailureKind.isTimeout : FailureKind → Bool
  | .timeout | .connectTimeout | .readTimeout | .writeTimeout | .poolTimeout => true
  | _ => false

/-- **An exchange that failed.** Status, reason and body are those of the answer, if there
was one; the cause is what went wrong if there was none. -/
structure TransportError where
  message : Text
  url : Option Text
  status : Option Int
  reason : Option Text
  body : Option Bytes
  cause : Option FailureKind
deriving DecidableEq, Repr

/-- **Why there is no body.** -/
inductive ExchangeFault where
  | failed (error : TransportError)
  | notEncodable (fault : Utf8.EncodeFault)
  | badUrl (message : Text)
  | noHost (url : Text)
  | unwritable (fault : Json.Unwritable)
deriving DecidableEq, Repr

/-- The wording of a fault. -/
def ExchangeFault.message : ExchangeFault → Text
  | .failed error => error.message
  | .notEncodable fault => fault.message
  | .badUrl message => message
  | .noHost url => "unknown url type: " ++ url.quoted
  | .unwritable fault => fault.message

/-- **The outcome of an exchange**: a body or a fault, the state afterwards, and the log
records on the way. -/
structure Exchange (σ : Type) where
  outcome : Except ExchangeFault Bytes
  state : σ
  records : List LogRecord

/-- **A transport.** An exchange is told the correlation id that it runs under. -/
class Transport (σ : Type) where
  /-- Exchanging a program for a body. -/
  exchange : σ → Option Text → Text → Exchange σ
  /-- Giving up resources. -/
  close : σ → σ

end GraphPath
