import RestConformance.Url.Host
import RestConformance.Url.Percent

/-!
# Addresses

An absolute address: scheme, authority, path, query and fragment, each in its written form. Special
schemes are those of the web, which have a host, a default port and a path that starts with a
slash.

## Main definitions

* `Url` – an address and its parts;
* `Url.write` – the text of an address;
* `Url.effectivePort?` – the port, or the usual one of the scheme;
* `Url.pairs`, `Url.addPair` – the pairs that the query writes, and one more behind them.
-/

namespace RestConformance

namespace Url

inductive Scheme where
  | http
  | https
  | ws
  | wss
  | ftp
  | file
  /-- Any other scheme, in lower case. -/
  | other (name : Text)
  deriving DecidableEq, Repr

namespace Scheme

/-- The scheme of a name in lower case. -/
def ofName (name : Text) : Scheme :=
  if name = "http".toList then .http
  else if name = "https".toList then .https
  else if name = "ws".toList then .ws
  else if name = "wss".toList then .wss
  else if name = "ftp".toList then .ftp
  else if name = "file".toList then .file
  else .other name

def name : Scheme → Text
  | .http => "http".toList
  | .https => "https".toList
  | .ws => "ws".toList
  | .wss => "wss".toList
  | .ftp => "ftp".toList
  | .file => "file".toList
  | .other n => n

/-- Whether a scheme is one of the web. -/
def isSpecial : Scheme → Bool
  | .other _ => false
  | _ => true

/-- The port that is meant where none is given. -/
def defaultPort? : Scheme → Option Nat
  | .http | .ws => some 80
  | .https | .wss => some 443
  | .ftp => some 21
  | .file | .other _ => none

/-- Whether requests can be sent to addresses of the scheme. -/
def isHttp : Scheme → Bool
  | .http | .https => true
  | _ => false

end Scheme

/-- Who and where: what stands between the two slashes and the path. -/
structure Authority where
  /-- The user name, empty if there is none. -/
  username : Text
  password : Option Text
  /-- The host; none where the text of the host is empty. -/
  host : Option Host
  /-- The port, unless it is the default of the scheme. -/
  port : Option Nat
  deriving DecidableEq, Repr

/-- A path. -/
inductive Path where
  /-- A path without hierarchy, as in `mailto:someone`. -/
  | plain (text : Text)
  /-- Segments, each with a slash before it. -/
  | segments (list : List Text)
  deriving DecidableEq, Repr

end Url

open Url in
/-- An absolute address. -/
structure Url where
  scheme : Scheme
  /-- Host, port and user, for addresses with two slashes. -/
  authority : Option Authority
  path : Path
  /-- The query, without its question mark. -/
  query : Option Text
  /-- The fragment, without its number sign. -/
  fragment : Option Text
  deriving DecidableEq, Repr

namespace Url

/-- User name and password with the signs that set them off, or nothing where there are none. -/
def Authority.writeUser (a : Authority) : Text :=
  if a.username.isEmpty && a.password.isNone then []
  else
    a.username ++ (match a.password with
      | some password => ':' :: password
      | none => []) ++ ['@']

def Authority.writeHost (a : Authority) : Text :=
  (match a.host with
    | some host => host.write
    | none => []) ++
  (match a.port with
    | some port => ':' :: Decimal.digits port
    | none => [])

def Authority.write (a : Authority) : Text :=
  a.writeUser ++ a.writeHost

def Path.write : Path → Text
  | .plain text => text
  | .segments list => list.flatMap fun segment => '/' :: segment

/-- The text of scheme, authority and path. Without an authority a path may not start with two
slashes, so a dot segment is put before it. -/
def writeFront (u : Url) : Text :=
  u.scheme.name ++ ':' ::
    (match u.authority with
      | some a => '/' :: '/' :: a.write ++ u.path.write
      | none =>
        match u.path.write with
        | '/' :: '/' :: rest => '/' :: '.' :: '/' :: '/' :: rest
        | path => path)

/-- The text of a query with its question mark, or nothing where there is none. -/
def writeQuery : Option Text → Text
  | some query => '?' :: query
  | none => []

/-- The text of a fragment with its number sign, or nothing where there is none. -/
def writeFragment : Option Text → Text
  | some fragment => '#' :: fragment
  | none => []

def write (u : Url) : Text :=
  u.writeFront ++ writeQuery u.query ++ writeFragment u.fragment

def text (u : Url) : String :=
  String.ofList u.write

def host? (u : Url) : Option Host :=
  u.authority.bind Authority.host

/-- The port of an address, or the usual one of its scheme. -/
def effectivePort? (u : Url) : Option Nat :=
  (u.authority.bind Authority.port).or u.scheme.defaultPort?

/-- The address without user name and password. -/
def withoutUser (u : Url) : Url :=
  { u with authority := u.authority.map fun a => { a with username := [], password := none } }

/-! ### Pairs of the query -/

def pairs (u : Url) : List (Text × Text) :=
  match u.query with
  | some query => Form.pairs query
  | none => []

/-- The address with one more pair at the end of its query. -/
def addPair (u : Url) (name value : Text) : Url :=
  { u with query := some (Form.append (u.query.getD []) name value) }

end Url

end RestConformance
