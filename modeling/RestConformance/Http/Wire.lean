import RestConformance.Http.Request
import RestConformance.Text.Numerals
import RestConformance.Url.Basic

/-!
# Exchanges on the wire

What goes to a server and what may come back. A transport carries one request to the server of its
address and tells how that went.

## Main definitions

* `Http.WireRequest` – a request that is ready to be sent;
* `Http.Exchange` – how sending a request goes;
* `Http.Transport` – carries requests.
-/

namespace RestConformance.Http

/-- How the program introduces itself to servers. -/
def userAgent : String := "restprobe/0.1.0"

/-- A request that is ready to be sent. -/
structure WireRequest where
  method : Method
  url : Url
  /-- The values of the header that says who sends the request. -/
  authorization : List Bytes
  body : Option Bytes
  deriving DecidableEq, Repr

/-- The headers of a request that say something of it. -/
def WireRequest.headers (request : WireRequest) : List (String × Bytes) :=
  request.authorization.map (("authorization", ·)) ++
    (match request.body with
      | some body => [("content-length", Utf8.encode (Decimal.digits body.length))]
      | none => []) ++
    [("user-agent", Utf8.encodeString userAgent)]

/-- What is got of a body. -/
inductive ReceivedBody where
  | complete (bytes : Bytes)
  /-- The connection ended before it. -/
  | cutShort
  | timedOut
  deriving DecidableEq, Repr

/-- A response. -/
structure WireResponse where
  status : UInt16
  /-- Where the server sends the client instead. -/
  location : Option Bytes
  body : ReceivedBody
  deriving DecidableEq, Repr

/-- How sending a request goes. -/
inductive Exchange where
  | unreachable (reason : String)
  /-- The server takes too long to answer. -/
  | silent
  /-- The connection ends without an answer. -/
  | dropped
  | answered (response : WireResponse)
  deriving DecidableEq, Repr

/-- Carries a request to the server of its address. -/
abbrev Transport (m : Type → Type) :=
  WireRequest → m Exchange

end RestConformance.Http
