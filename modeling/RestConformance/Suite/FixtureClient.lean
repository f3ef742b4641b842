import RestConformance.Http.Request
import RestConformance.Link.Basic
import RestConformance.Outcome
import RestConformance.Link.Document

/-!
# Fixture clients

A fixture client manages the links of a server for the runs of suites. The one of this library does
it through the resources of the server, with the same executor as the test cases.

## Main definitions

* `FixtureFailure` – why a link cannot be managed;
* `FixtureClient` – the four operations on links;
* `isSuccess` – the statuses that mean success;
* `RestFixtureClient.createRequest` and its siblings – the requests that the operations send;
* `restFixtureClient` – the client of an executor and a server.
-/

namespace RestConformance

/-- Why a link cannot be managed. -/
inductive FixtureFailure where
  | request (failure : Http.Failure)
  /-- The server answered with a status that does not mean success. -/
  | unexpectedStatus (operation : String) (status : UInt16) (text : String)
  | serialization (text : String)
  deriving DecidableEq, Repr

def FixtureFailure.message : FixtureFailure → String
  | .request failure => failure.message
  | .unexpectedStatus operation status text =>
    operation ++ " returned status " ++ toString status.toNat ++ ": " ++ text
  | .serialization text => "serialization error: " ++ text

/-- Manages the links of a server. -/
structure FixtureClient (m : Type → Type) where
  /-- Makes a link of a connector, which the server does not keep yet. -/
  create : String → m (Outcome FixtureFailure Link)
  /-- Has the server keep a link. -/
  save : Link → m (Outcome FixtureFailure Unit)
  /-- Has the server drop the link of a name. -/
  delete : String → m (Outcome FixtureFailure Unit)
  /-- Asks whether the server keeps a link of a name. -/
  contains : String → m (Outcome FixtureFailure Bool)

/-! ### Managing links over REST -/

/-- Whether a status means success. -/
def isSuccess (status : UInt16) : Bool :=
  200 ≤ status && status ≤ 299

namespace RestFixtureClient

/-- The request that asks for a connector. -/
def createRequest (base connectorName : String) : Http.Request :=
  ⟨.get, Http.resolvePath base ("v1/connector/" ++ connectorName), none⟩

/-- The request that posts a link. -/
def saveRequest (base : String) (link : Link) : Http.Request :=
  ⟨.post, Http.resolvePath base "v1/link", some link.payload⟩

/-- The request that drops a link. -/
def deleteRequest (base name : String) : Http.Request :=
  ⟨.delete, Http.resolvePath base ("v1/link/" ++ name), none⟩

/-- The request that asks for a link. -/
def containsRequest (base name : String) : Http.Request :=
  ⟨.get, Http.resolvePath base ("v1/link/" ++ name), none⟩

/-- What is told of a request of the client before it is sent. -/
def requestEntry (request : Http.Request) : LogEntry where
  level := .debug
  message := "fixture request"
  fields := [("method", request.method.name), ("url", request.url)]

/-- Takes an answer for an operation that succeeds with some statuses only. -/
def expectSuccess (operation : String) (capture : Capture) : Outcome FixtureFailure Unit :=
  if isSuccess capture.status then .returned ()
  else .failed (.unexpectedStatus operation capture.status capture.effectiveText)

variable {m : Type → Type} [Monad m]

/-- Sends a request of the client. -/
def send (execute : Executor m) (log : Logger m) (request : Http.Request) :
    m (Outcome FixtureFailure Capture) := do
  log (requestEntry request)
  return (← execute request).mapError .request

end RestFixtureClient

open RestFixtureClient in
/-- The fixture client of an executor and a server. -/
def restFixtureClient {m : Type → Type} [Monad m] (execute : Executor m) (log : Logger m)
    (base : String) : FixtureClient m where
  create connectorName := do
    let answer ← send execute log (createRequest base connectorName)
    return (answer.bind (expectSuccess "create link")).mapValue fun _ =>
      Link.ofConnector connectorName
  save link := do
    let answer ← send execute log (saveRequest base link)
    return answer.bind (expectSuccess "save link")
  delete name := do
    let answer ← send execute log (deleteRequest base name)
    return answer.bind (expectSuccess "delete link")
  contains name := do
    let answer ← send execute log (containsRequest base name)
    return answer.mapValue fun capture => isSuccess capture.status

end RestConformance
