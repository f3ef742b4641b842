import RestConformance.Http.Request
import RestConformance.Http.Preparation
import RestConformance.Url.Reference

/-!
# The client

Sends requests over a transport, follows redirections, and captures the final response. Bytes of a
body that are no UTF-8 become U+FFFD. A body that cannot be read counts as empty, unless the status
means an error.

## Main definitions

* `Http.redirection?` – the request that a response asks for instead;
* `Http.nextStep` – how a client goes on after an exchange;
* `Http.follow` – an exchange with its redirections;
* `Http.captureOf` – the capture of a response;
* `Http.Client` – what sending needs, and `Http.Client.execute`, the executor of a client.
-/

namespace RestConformance.Http

/-! ### Failures of exchanges -/

/-- The sentence on a request that could not be sent. -/
def sendingText (url : Url) : String :=
  aboutUrl "error sending request" url

/-- The name of the host of an address. -/
def hostText (url : Url) : String :=
  match url.host? with
  | some host => String.ofList host.write
  | none => "unknown"

/-- The failure of a request whose server cannot be reached. What kind of failure it is, is read
off the words that tell of it, among them the address. -/
def connectFailure (url : Url) (reason : String) : Failure :=
  -- The address is among the words: a host with `dns` in its name is never told to have refused.
  let words := Text.lowerAscii (url.write ++ ' ' :: reason.toList)
  if Text.contains words "dns".toList || Text.contains words "resolve".toList then
    .unknownHost (hostText url) (sendingText url)
  else if Text.contains words "refused".toList then
    .connectionRefused (hostText url) (.ofNat (url.effectivePort?.getD 80))
  else .connectionFailed (sendingText url)

/-! ### Redirections -/

/-- How many redirections are followed. -/
def redirectionLimit : Nat := 10

/-- Whether a status sends the client elsewhere. -/
def isRedirection (status : UInt16) : Bool :=
  status == 301 || status == 302 || status == 303 || status == 307 || status == 308

/-- Whether a redirected request becomes one that reads. -/
def becomesGet (status : UInt16) (method : Method) : Bool :=
  status == 303 || ((status == 301 || status == 302) && method == .post)

/-- Whether two addresses belong to the same server. -/
def sameServer (a b : Url) : Bool :=
  a.host? == b.host? && a.effectivePort? == b.effectivePort?

/-- The request that a response asks for instead of `request`. Who sends it is told to the same
server only. -/
def redirection? (request : WireRequest) (response : WireResponse) : Option WireRequest :=
  if isRedirection response.status then
    match (response.location.bind Utf8.decode?).map (Url.resolve request.url) with
    | some (.ok url) =>
      let authorization := if sameServer request.url url then request.authorization else []
      if becomesGet response.status request.method then some ⟨.get, url, authorization, none⟩
      else some ⟨request.method, url, authorization, request.body⟩
    -- A response that does not tell where to go is the final one, whatever its status.
    | _ => none
  else none

/-- How a client goes on after an exchange. -/
inductive NextStep where
  | failed (failure : Failure)
  | final (response : WireResponse)
  | redirected (next : WireRequest)

/-- How a client goes on after the exchange of a request. -/
def nextStep (request : WireRequest) : Exchange → NextStep
  | .unreachable reason => .failed (connectFailure request.url reason)
  | .silent => .failed (.timeout (sendingText request.url))
  | .dropped => .failed (.other (sendingText request.url))
  | .answered response =>
    match redirection? request response with
    | some next => .redirected next
    | none => .final response

/-- Sends a request and follows up to `left` redirections. Gives the final response and the address
that it comes from. -/
def follow {m : Type → Type} [Monad m] (send : Transport m) :
    (left : Nat) → WireRequest → m (Except Failure (Url × WireResponse))
  | 0, request => do
    match nextStep request (← send request) with
    | .failed failure => return .error failure
    | .final response => return .ok (request.url, response)
    | .redirected _ => return .error (.other (aboutUrl "error following redirect" request.url))
  | left + 1, request => do
    match nextStep request (← send request) with
    | .failed failure => return .error failure
    | .final response => return .ok (request.url, response)
    | .redirected next =>
      -- The address of the first request was checked when the request was prepared.
      if isSendable next.url then follow send left next
      else return .error (.other (aboutUrl "builder error" next.url))

/-! ### Captures -/

/-- The sentence on a body that could not be read. -/
def bodyText (url : Url) : String :=
  aboutUrl "error decoding response body" url

/-- The capture of a response. -/
def captureOf (url : Url) (response : WireResponse) : Except Failure Capture :=
  match response.body with
  | .complete bytes => .ok (.ofBody response.status (Utf8.decodeLossyString bytes))
  | .cutShort | .timedOut =>
    if Capture.isErrorStatus response.status then .error (.unreadableError (bodyText url))
    else .ok (.ofBody response.status "")

/-- What is told of a body that counts as empty. -/
def bodyEntries (url : Url) (response : WireResponse) : List LogEntry :=
  match response.body with
  | .complete _ => []
  | .cutShort | .timedOut =>
    [⟨.debug, "success channel unreadable, treating as empty: " ++ bodyText url,
      [("status", toString response.status.toNat)]⟩]

/-- What is told of a captured response. -/
def captureEntry (request : Request) (capture : Capture) : LogEntry where
  level := .debug
  message := "error = " ++ capture.errorText ++ ", input = " ++ capture.successText
  fields := [("method", request.method.name), ("url", request.url),
    ("status", toString capture.status.toNat)]

/-- What sending requests needs. -/
structure Client (m : Type → Type) where
  credentials : CredentialSource m
  transport : Transport m
  log : Logger m

/-- Sends a request and captures the final response. -/
def Client.execute {m : Type → Type} [Monad m] (client : Client m) : Executor m :=
  fun request => do
    match ← client.credentials with
    | .error error => return .failed (.credentials error)
    | .ok credentials =>
      match prepare credentials request with
      | .error failure => return .failed failure
      | .ok wire =>
        match ← follow client.transport redirectionLimit wire with
        | .error failure => return .failed failure
        | .ok (url, response) =>
          match captureOf url response with
          | .error failure => return .failed failure
          | .ok capture =>
            (bodyEntries url response).forM client.log
            client.log (captureEntry request capture)
            return .returned capture

end RestConformance.Http
