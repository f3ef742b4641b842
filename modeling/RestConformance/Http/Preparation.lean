import RestConformance.Http.Request
import RestConformance.Http.Wire
import RestConformance.Text.Bytes
import RestConformance.Url.Parser
import RestConformance.Url.Basic

/-!
# Preparing requests

Turns a request and the credentials of its sender into what goes over the wire. A user in the
address is taken out of it and goes into a header, before the one of the credentials.

## Main definitions

* `Http.authenticatedUrl` – the address with the query parameter of the credentials;
* `Http.takeUser` – the address without its user, and the header of that user;
* `Http.prepare` – the request that is sent.
-/

namespace RestConformance.Http

/-- The address of a request, with the query parameter that the credentials ask for. -/
def authenticatedUrl (url : String) (credentials : Credentials) : Except Failure Url :=
  match Url.parse url with
  | .error error => .error (.invalidUrl (error.message ++ ": " ++ url))
  | .ok parsed =>
    match credentials.queryParameter? with
    | some (name, value) => .ok (parsed.addPair name.toList value.toList)
    | none => .ok parsed

/-- The header value of a user name and a password. -/
def basicAuthorization (username password : Bytes) : Bytes :=
  Utf8.encode ("Basic ".toList ++ Base64.encode (username ++ Utf8.encode [':'] ++ password))

/-- The values of the authorization header that credentials ask for. -/
def authorizationOf : Credentials → List Bytes
  | .basic username password =>
    [basicAuthorization (Utf8.encodeString username) (Utf8.encodeString password)]
  | .bearer token => [Utf8.encodeString ("Bearer " ++ token)]
  | .anonymous | .pseudoUser _ => []

/-- A part of an address without its percent escapes, if that is a text. -/
def unescape? (t : Text) : Option Bytes :=
  let bytes := Percent.decode t
  (Utf8.decode? bytes).map fun _ => bytes

/-- The address without its user, and the values of the authorization header that the user asks
for. A user whose name is no text stays in the address. -/
def takeUser (url : Url) : Url × List Bytes :=
  match url.authority with
  | none => (url, [])
  | some authority =>
    let password := authority.password.bind unescape?
    match unescape? authority.username with
    | none => (url, [])
    | some username =>
      if username.isEmpty && password.isNone then (url, [])
      else (url.withoutUser, [basicAuthorization username (password.getD [])])

/-- Whether a byte may occur in the value of a header. -/
def isHeaderByte (b : UInt8) : Bool :=
  (0x20 ≤ b.toNat && b.toNat != 0x7F) || b.toNat == 0x09

/-- The length of the longest address that a request may have. -/
def longestUrl : Nat := 65534

/-- Whether a character of a host may not occur in a request. -/
def isUnsendable (c : Char) : Bool :=
  c == '"' || c == '\x60' || c == '\x7b' || c == '\x7d'

/-- Whether requests can be sent to an address: it is one of the web, it is not too long, and its
host has only characters that a request can hold. -/
def isSendable (url : Url) : Bool :=
  url.scheme.isHttp && url.write.length ≤ longestUrl &&
    url.host?.all fun host => !host.write.any isUnsendable

/-- A sentence about the address of a request. -/
def aboutUrl (sentence : String) (url : Url) : String :=
  sentence ++ " for url (" ++ url.text ++ ")"

/-- The request that is sent for a request with some credentials. -/
def prepare (credentials : Credentials) (request : Request) : Except Failure WireRequest := do
  let full ← authenticatedUrl request.url credentials
  if full.host?.isNone then throw (.other (aboutUrl "builder error" full))
  let (url, ofUser) := takeUser full
  let authorization := ofUser ++ authorizationOf credentials
  -- What is wrong with a header is told before what is wrong with the address.
  if !authorization.all (·.all isHeaderByte) then throw (.other "builder error")
  if !isSendable url then throw (.other (aboutUrl "builder error" url))
  return ⟨request.method, url, authorization, request.body⟩

end RestConformance.Http
