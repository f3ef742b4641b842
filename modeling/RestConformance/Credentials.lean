import RestConformance.Json.Basic
import RestConformance.Text.Quoted
import RestConformance.Text.Basic
import RestConformance.Text.Bytes

/-!
# Credentials

How requests say who sends them: not at all, by a parameter of the query, or by a header.

Every request asks a source for its credentials. A fixed source always gives the same ones; a token
file is read anew for each request, so that a token that is renewed on disk is picked up.

## Main definitions

* `Credentials` – the four kinds;
* `Credentials.queryParameter?` – what the query gets;
* `Credentials.describe` – a text for people, which does not give away any secret;
* `CredentialSource` – what is asked;
* `CredentialSource.fixed`, `CredentialSource.tokenFile` – the two kinds of sources;
* `FileProblem` – why a file cannot be read.
-/

namespace RestConformance

/-- Who sends a request. -/
inductive Credentials where
  | anonymous
  /-- A user who is named in the query and not asked for a password. -/
  | pseudoUser (user : String)
  | basic (username password : String)
  | bearer (token : String)
  deriving DecidableEq, Repr

namespace Credentials

/-- The query parameter that names a user. -/
def userParameter : String := "user.name"

/-- The parameter that the query of a request gets. -/
def queryParameter? : Credentials → Option (String × String)
  | .pseudoUser user => some (userParameter, user)
  | _ => none

/-- What stands for a secret. -/
def mask : String := "***"

/-- The text of a record with a name and some fields. -/
def describeRecord (name : String) (fields : List (String × String)) : String :=
  name ++ " \x7b " ++ ", ".intercalate (fields.map fun field =>
    field.1 ++ ": " ++ Quoted.quote field.2) ++ " \x7d"

/-- A text for people. Passwords and tokens are masked. -/
def describe : Credentials → String
  | .anonymous => "Anonymous"
  | .pseudoUser user => describeRecord "PseudoUser" [("user", user)]
  | .basic username _ => describeRecord "Basic" [("username", username), ("password", mask)]
  | .bearer _ => describeRecord "Bearer" [("token", mask)]

def toJson : Credentials → Json
  | .anonymous => .object [("type", .string "anonymous")]
  | .pseudoUser user => .object [("type", .string "pseudo_user"), ("user", .string user)]
  | .basic username password =>
    .object [("type", .string "basic"), ("username", .string username),
      ("password", .string password)]
  | .bearer token => .object [("type", .string "bearer"), ("token", .string token)]

def ofJson? (value : Json) : Option Credentials := do
  let (kind, fields) ← value.tagged? "type"
  match ← kind.string? with
  | "anonymous" => return .anonymous
  | "pseudo_user" =>
    match ← fields.requiredFields? ["user"] with
    | [user] => return .pseudoUser (← user.string?)
    | _ => none
  | "basic" =>
    match ← fields.requiredFields? ["username", "password"] with
    | [username, password] => return .basic (← username.string?) (← password.string?)
    | _ => none
  | "bearer" =>
    match ← fields.requiredFields? ["token"] with
    | [token] => return .bearer (← token.string?)
    | _ => none
  | _ => none

end Credentials

/-! ### Sources -/

/-- There are no credentials, for a reason. -/
structure CredentialError where
  reason : String
  deriving DecidableEq, Repr

def CredentialError.message (error : CredentialError) : String :=
  "no credentials available: " ++ error.reason

/-- Gives the credentials of the next request. -/
abbrev CredentialSource (m : Type → Type) :=
  m (Except CredentialError Credentials)

/-- Why a file cannot be read. -/
inductive FileProblem where
  | missing
  | directory
  /-- Something on the way is no directory. -/
  | notDirectory
  | nameTooLong
  /-- The name holds a zero character. -/
  | zeroInName
  | other (text : String)
  deriving DecidableEq, Repr

def FileProblem.message : FileProblem → String
  | .missing => "No such file or directory (os error 2)"
  | .directory => "Is a directory (os error 21)"
  | .notDirectory => "Not a directory (os error 20)"
  | .nameTooLong => "File name too long (os error 36)"
  | .zeroInName => "file name contained an unexpected NUL byte"
  | .other text => text

/-- The credentials that the content of a token file gives: the token is its text without outer
blanks. -/
def Credentials.ofTokenFile (path : String) (content : Except FileProblem Bytes) :
    Except CredentialError Credentials :=
  match content with
  | .error problem => .error ⟨path ++ ": " ++ problem.message⟩
  | .ok bytes =>
    match Utf8.decodeString? bytes with
    | none => .error ⟨path ++ ": stream did not contain valid UTF-8"⟩
    | some text =>
      if isBlankString text then .error ⟨path ++ ": token file is empty"⟩
      else .ok (.bearer (trimBlanks text))

namespace CredentialSource

variable {m : Type → Type} [Monad m]

/-- Always the same credentials. -/
def fixed (credentials : Credentials) : CredentialSource m :=
  return .ok credentials

/-- The token in a file, read for every request. -/
def tokenFile (fileContent : String → m (Except FileProblem Bytes)) (path : String) :
    CredentialSource m := do
  return Credentials.ofTokenFile path (← fileContent path)

end CredentialSource

end RestConformance
