import RestConformance.Credentials
import RestConformance.TestCase
import RestConformance.Url.Parser

/-!
# Requests

What is asked of an executor: a method, a full address as text, and the bytes of a body. Requests
are looked at before an executor gets them: their address has to be an absolute one of the web.
Where there is no captured response, there is a failure; a status that means an error is none.

What the library tells while it works are log entries with a level, a message and named fields, all
of them texts.

## Main definitions

* `LogEntry` – one thing told;
* `Http.Failure` – why a request has no captured response;
* `Http.Request` – a request, and `Http.Request.ofCase`, that of a test case;
* `Http.resolvePath` – the address of a path on a server;
* `Executor` – sends requests and captures responses;
* `Http.Request.check` – whether a request may be sent;
* `Http.dispatch` – checks a request and sends it.
-/

namespace RestConformance

/-! ### Log entries -/

/-- How important a log entry is. -/
inductive Level where
  | debug
  | info
  | warn
  | error
  deriving DecidableEq, Repr

def Level.name : Level → String
  | .debug => "DEBUG"
  | .info => "INFO"
  | .warn => "WARN"
  | .error => "ERROR"

/-- One thing told. -/
structure LogEntry where
  level : Level
  message : String
  fields : List (String × String)
  deriving DecidableEq, Repr

/-! ### Failures -/

namespace Http

/-- Why a request has no captured response. -/
inductive Failure where
  | invalidUrl (text : String)
  | unknownHost (host text : String)
  | connectionRefused (host : String) (port : UInt16)
  /-- There is no connection for another reason. -/
  | connectionFailed (text : String)
  | timeout (text : String)
  /-- The status means an error and the body cannot be read. -/
  | unreadableError (text : String)
  | credentials (error : CredentialError)
  | other (text : String)
  deriving DecidableEq, Repr

def Failure.message : Failure → String
  | .invalidUrl text => "invalid URL: " ++ text
  | .unknownHost host text => "DNS lookup failed for " ++ host ++ ": " ++ text
  | .connectionRefused host port =>
    "connection refused by " ++ host ++ ":" ++ toString port.toNat
  | .connectionFailed text => "connection failed: " ++ text
  | .timeout text => "request timed out: " ++ text
  | .unreadableError text => "failed to read error response: " ++ text
  | .credentials error => error.message
  | .other text => text

/-! ### Requests of cases -/

structure Request where
  method : Method
  url : String
  body : Option Bytes
  deriving DecidableEq, Repr

/-- Whether a character separates the parts of a path. -/
def isSeparator (c : Char) : Bool :=
  c == '/'

/-- A path behind the address of a server, with exactly one slash between the two. -/
def resolvePathText (base path : Text) : Text :=
  Text.trimRight isSeparator base ++ '/' :: Text.trimLeft isSeparator path

/-- The address of a path on a server. -/
def resolvePath (base path : String) : String :=
  String.ofList (resolvePathText base.toList path.toList)

/-- The request of a test case on a server. -/
def Request.ofCase (base : String) (testCase : TestCase) : Request :=
  ⟨testCase.method, resolvePath base testCase.path, testCase.body⟩

end Http

/-! ### Dispatching -/

/-- Sends a request and captures the response. -/
abbrev Executor (m : Type → Type) :=
  Http.Request → m (Outcome Http.Failure Capture)

/-- Takes notice of a log entry. -/
abbrev Logger (m : Type → Type) :=
  LogEntry → m Unit

namespace Http

/-- Why a dispatched request has no captured response. -/
inductive DispatchFailure where
  | emptyUrl
  | unreadableUrl (error : Url.Error) (url : String)
  /-- The address is none of the web. -/
  | foreignScheme
  /-- The request was sent and failed. -/
  | request (failure : Failure)
  deriving DecidableEq, Repr

def DispatchFailure.message : DispatchFailure → String
  | .emptyUrl => "URL is required"
  | .unreadableUrl error url => "Invalid URL: " ++ error.message ++ ": " ++ url
  | .foreignScheme => "Invalid URL: URL must start with http:// or https://"
  | .request failure => failure.message

/-- Whether a request may be sent. -/
def Request.check (request : Request) : Except DispatchFailure Unit :=
  if isBlankString request.url then .error .emptyUrl
  else
    match Url.parse request.url with
    | .error error => .error (.unreadableUrl error request.url)
    | .ok url => if url.scheme.isHttp then .ok () else .error .foreignScheme

/-- What is told of a request before it is sent. -/
def Request.sendingEntry (request : Request) : LogEntry where
  level := .debug
  message := "sending request"
  fields := [("method", request.method.name), ("url", request.url)]

/-- Checks a request and sends it. -/
def dispatch {m : Type → Type} [Monad m] (execute : Executor m) (log : Logger m)
    (request : Request) : m (Outcome DispatchFailure Capture) := do
  match request.check with
  | .error failure => return .failed failure
  | .ok () =>
    log request.sendingEntry
    return (← execute request).mapError .request

end Http

end RestConformance
