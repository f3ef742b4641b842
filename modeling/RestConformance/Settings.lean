import RestConformance.Credentials
import RestConformance.Text.Numerals
import RestConformance.Url.Parser

/-!
# Settings

The settings of a run, which are read from variables. A variable that is not set has a default; one
that is set to something unusable is an error, and the first such variable decides.

## Main definitions

* `Settings` – the settings of a run;
* `Settings.read` – the settings of some variables;
* `Settings.credentials`, `Settings.credentialSource` – how requests are authenticated.
-/

namespace RestConformance

namespace Settings

/-- A variable that settings are read from. -/
inductive Variable where
  /-- The address of the server. -/
  | baseUrl
  | user
  /-- The user that the system knows, for want of the other one. -/
  | systemUser
  | password
  | bearerToken
  /-- The file that a token is read from for each request. -/
  | bearerTokenFile
  | timeout
  | suite
  deriving DecidableEq, Repr

def Variable.name : Variable → String
  | .baseUrl => "RESTPROBE_BASE_URL"
  | .user => "RESTPROBE_USER"
  | .systemUser => "USER"
  | .password => "RESTPROBE_PASSWORD"
  | .bearerToken => "RESTPROBE_BEARER_TOKEN"
  | .bearerTokenFile => "RESTPROBE_BEARER_TOKEN_FILE"
  | .timeout => "RESTPROBE_TIMEOUT_MS"
  | .suite => "RESTPROBE_SUITE"

/-- Why some variables give no settings. -/
inductive Error where
  /-- The address of the server is no absolute address of the web. -/
  | invalidBaseUrl (value : String)
  /-- The time is no positive number of milliseconds. -/
  | invalidTimeout (value : String)
  | blank (variableName : Variable)
  deriving DecidableEq, Repr

def Error.message : Error → String
  | .invalidBaseUrl value => Variable.baseUrl.name ++ " is not a valid http(s) URL: " ++ value
  | .invalidTimeout value =>
    Variable.timeout.name ++ " must be a positive number of milliseconds, got " ++
      Quoted.quote value
  | .blank variableName => variableName.name ++ " must not be empty"

end Settings

/-- The settings of a run. -/
structure Settings where
  /-- The address of the server, with a slash at its end. -/
  baseUrl : String
  user : String
  password : Option String
  bearerToken : Option String
  /-- The file that the token is read from, if there is none given. -/
  bearerTokenFile : Option String
  timeoutMs : Option UInt64
  suiteName : String
  deriving DecidableEq, Repr

namespace Settings

/-- The settings where no variable is set. -/
def standard : Settings where
  baseUrl := "http://localhost:12000/sqoop/"
  user := "restprobe"
  password := none
  bearerToken := none
  bearerTokenFile := none
  timeoutMs := none
  suiteName := "restprobe::registry"

/-- The text with a slash at its end. -/
def withSlash (t : Text) : Text :=
  if t.getLast? = some '/' then t else t ++ ['/']

/-- The address of a server that a value gives. -/
def readBaseUrl (value : String) : Except Error String :=
  match Url.parse (trimBlanks value) with
  | .error _ => .error (.invalidBaseUrl value)
  | .ok url =>
    if url.scheme.isHttp then .ok (String.ofList (withSlash url.write))
    else .error (.invalidBaseUrl value)

/-- The number that digits write, with a plus sign before them or without. -/
def readNumber? (t : Text) : Option Nat :=
  match t with
  | '+' :: digits => Decimal.number? digits
  | digits => Decimal.number? digits

/-- The time that a value gives. -/
def readTimeout (value : String) : Except Error UInt64 :=
  match readNumber? (trimBlanks value).toList with
  | some n => if 0 < n ∧ n < UInt64.size then .ok (.ofNat n) else .error (.invalidTimeout value)
  | none => .error (.invalidTimeout value)

/-- A value that must not be blank if there is one. -/
def notBlank (variableName : Variable) (value : Option String) : Except Error (Option String) :=
  if value.any isBlankString then .error (.blank variableName) else .ok value

/-- The settings of some variables, of which `lookup` gives the values that are set. -/
def read (lookup : String → Option String) : Except Error Settings := do
  let value (variableName : Variable) := lookup variableName.name
  let baseUrl ← readBaseUrl ((value .baseUrl).getD standard.baseUrl)
  -- A blank user is an error, a blank user of the system only counts as none.
  let named ← notBlank .user (value .user)
  let user := (named.or ((value .systemUser).filter (!isBlankString ·))).getD standard.user
  let file ← notBlank .bearerTokenFile (value .bearerTokenFile)
  let timeoutMs ← (value .timeout).mapM readTimeout
  let suite ← notBlank .suite (value .suite)
  return {
    baseUrl := baseUrl
    user := user
    password := (value .password).filter (· != "")
    bearerToken := (value .bearerToken).filter (!isBlankString ·)
    bearerTokenFile := file
    timeoutMs := timeoutMs
    suiteName := suite.getD standard.suiteName }

/-- The credentials of settings without a token file: a token goes before a password, and a
password before a user who is only named. -/
def credentials (settings : Settings) : Credentials :=
  match settings.bearerToken, settings.password with
  | some token, _ => .bearer token
  | none, some password => .basic settings.user password
  | none, none => .pseudoUser settings.user

/-- The source of the credentials of requests. A token file is read only where no token is
given. -/
def credentialSource {m : Type → Type} [Monad m]
    (fileContent : String → m (Except FileProblem Bytes)) (settings : Settings) :
    CredentialSource m :=
  match settings.bearerToken, settings.bearerTokenFile with
  | none, some path => .tokenFile fileContent path
  | _, _ => .fixed settings.credentials

end Settings

end RestConformance
