import RestConformance.Url.Basic
import RestConformance.Text.Numerals

/-!
# Reading addresses

Reads an absolute address from any text, as browsers do: outer control characters and spaces do not
count, nor do tabs and line ends anywhere, backslashes are slashes in special schemes, `.` and `..`
segments are resolved, and characters that may not stand for themselves are percent-encoded.

## Main definitions

* `Url.readScheme?` – the scheme and what follows its colon;
* `Url.readAuthority` – user, host and port;
* `Url.resolveSegments` – the segments of a path without dot segments;
* `Url.parse` – a whole address.

## Design notes

No part before the query can hold `?`, and none before the fragment `#`, so both are cut off first;
the rest is cut at its first colon, then at its slashes.
-/

namespace RestConformance.Url

/-! ### Cutting a text into parts -/

/-- The text without outer control characters and spaces and without tabs and line ends. -/
def clean (t : Text) : Text :=
  (Text.trimBoth (fun c => c.toNat ≤ 0x20) t).filter fun c => c != '\t' && c != '\n' && c != '\r'

/-- A text cut at the first occurrence of a character. -/
def cut (separator : Char) (t : Text) : Text × Option Text :=
  match Text.splitFirst separator t with
  | some (before, after) => (before, some after)
  | none => (t, none)

/-- Whether a character may stand in a scheme behind its first letter. -/
def isSchemeChar (c : Char) : Bool :=
  c.isAlpha || c.isDigit || c == '+' || c == '-' || c == '.'

/-- The scheme of a text and what follows its colon. -/
def readScheme? (t : Text) : Option (Scheme × Text) :=
  match Text.splitFirst ':' t with
  | some (name, rest) =>
    match name with
    | c :: more =>
      if c.isAlpha && more.all isSchemeChar then some (.ofName (Text.lowerAscii name), rest)
      else none
    | [] => none
  | none => none

/-- Whether a character separates segments. -/
def isSlash (special : Bool) (c : Char) : Bool :=
  c == '/' || (special && c == '\\')

/-! ### Authorities -/

/-- The texts of a host and of its port. Colons in brackets do not count. -/
def splitPort (inside : Bool) : Text → Text × Option Text
  | [] => ([], none)
  | c :: rest =>
    if c = ':' ∧ !inside then ([], some rest)
    else
      let found := splitPort (if c = '[' then true else if c = ']' then false else inside) rest
      (c :: found.1, found.2)

/-- The port that a text writes. No digits write none, and so does the default of the scheme. -/
def readPort (scheme : Scheme) (t : Text) : Except Error (Option Nat) :=
  if t.isEmpty then .ok none
  else
    match Decimal.number? t with
    | some n =>
      if n < 65536 then .ok (if scheme.defaultPort? = some n then none else some n)
      else .error .invalidPort
    | none => .error .invalidPort

/-- The user name and the password that a text writes. An empty password is none. -/
def readUser (t : Text) : Text × Option Text :=
  match cut ':' t with
  | (name, some (c :: password)) =>
    (Percent.encode Percent.userinfo name, some (Percent.encode Percent.userinfo (c :: password)))
  | (name, _) => (Percent.encode Percent.userinfo name, none)

/-- The host that a text writes. Special schemes need one. -/
def readHost (scheme : Scheme) (t : Text) : Except Error (Option Host) :=
  if scheme.isSpecial then
    if t.isEmpty then .error .emptyHost else (Host.read t).map some
  else Host.readOpaque t

/-- The digits of a port and what comes behind them. Outside the special schemes a backslash ends a
port and starts the path. -/
def splitPath (scheme : Scheme) (t : Text) : Text × Text :=
  if scheme.isSpecial then (t, []) else (t.takeWhile (· != '\\'), t.dropWhile (· != '\\'))

/-- Reads an authority, and gives what of the text belongs to the path. `followed` tells whether
anything comes behind the text, which an at-sign with nothing on either side does not allow. -/
def readAuthority (scheme : Scheme) (followed : Bool) (t : Text) :
    Except Error (Authority × Text) := do
  let (user, place) :=
    -- An at-sign before the last one belongs to the user.
    match Text.splitLast '@' t with
    | some (user, place) => (some user, place)
    | none => (none, t)
  if user = some [] ∧ place.isEmpty ∧ followed then throw .emptyHost
  let (hostText, portText) := splitPort false place
  let host ← readHost scheme hostText
  -- Where there is no host, there is neither port nor user.
  if host.isNone ∧ portText.isSome then throw .emptyHost
  let (digits, left) := splitPath scheme (portText.getD [])
  let port ← readPort scheme digits
  let (username, password) := readUser (user.getD [])
  if host.isNone ∧ (!username.isEmpty ∨ password.isSome) then throw .emptyHost
  return (⟨username, password, host, port⟩, left)

/-! ### Paths -/

/-- The raw segments of a path, which are what stands between its slashes. -/
def splitSegments (special : Bool) : Text → List Text
  | [] => [[]]
  | c :: rest =>
    if isSlash special c then [] :: splitSegments special rest
    else
      match splitSegments special rest with
      -- There is always a first segment, so this case does not occur.
      | [] => [[c]]
      | segment :: segments => (c :: segment) :: segments

/-- The text after one slash at its start. -/
def dropSlash (special : Bool) : Text → Text
  | [] => []
  | c :: rest => if isSlash special c then rest else c :: rest

/-- Whether a segment means the directory that it stands in. -/
def isSingleDot (segment : Text) : Bool :=
  let s := Text.lowerAscii segment
  s == ['.'] || s == "%2e".toList

/-- Whether a segment means the directory above. -/
def isDoubleDot (segment : Text) : Bool :=
  let s := Text.lowerAscii segment
  s == "..".toList || s == ".%2e".toList || s == "%2e.".toList || s == "%2e%2e".toList

/-- Whether a segment is the letter of a drive, with a colon or a bar. -/
def isDriveLetter : Text → Bool
  | [c, d] => c.isAlpha && (d == ':' || d == '|')
  | _ => false

/-- A segment in its written form. At the start of the path of a file, the letter of a drive gets
a colon. -/
def writeSegment (scheme : Scheme) (before : List Text) (segment : Text) : Text :=
  if scheme = .file ∧ before.isEmpty ∧ isDriveLetter segment then segment.take 1 ++ [':']
  else Percent.encode Percent.path segment

/-- Whether a segment is the letter of a drive, alone or with a backslash behind it. -/
def isDrive (segment : Text) : Bool :=
  isDriveLetter (segment.take 2) && (segment.drop 2).head?.all (· == '\\')

/-- The segments of the directory above. There is none above a drive. -/
def directoryAbove (segments : List Text) : List Text :=
  if segments.getLast?.any isDrive then segments else segments.dropLast

/-- Resolves raw segments behind those that are resolved already. Behind dot segments at the end
comes an empty segment. -/
def resolveSegments (scheme : Scheme) (before : List Text) : List Text → List Text
  | [] => before
  | segment :: rest =>
    let ended := if rest.isEmpty then [[]] else []
    if isDoubleDot segment then resolveSegments scheme (directoryAbove before ++ ended) rest
    else if isSingleDot segment then resolveSegments scheme (before ++ ended) rest
    else resolveSegments scheme (before ++ [writeSegment scheme before segment]) rest

/-- The segments of a path in the path of a file: empty ones at the start do not count. -/
def trimSegments (scheme : Scheme) (segments : List Text) : List Text :=
  if scheme = .file then
    match segments.dropWhile List.isEmpty with
    | [] => [[]]
    | trimmed => trimmed
  else segments

/-- The path that a text writes behind some segments. -/
def readPathFrom (scheme : Scheme) (before : List Text) (t : Text) : Path :=
  .segments (trimSegments scheme
    (resolveSegments scheme before (splitSegments scheme.isSpecial (dropSlash scheme.isSpecial t))))

/-- The path that a text writes. Only special schemes have a path where the text is empty. -/
def readPath (scheme : Scheme) (t : Text) : Path :=
  if t.isEmpty && !scheme.isSpecial then .segments [] else readPathFrom scheme [] t

/-! ### Whole addresses -/

/-- A query in its written form. -/
def encodeQuery (scheme : Scheme) (t : Text) : Text :=
  Percent.encode (if scheme.isSpecial then Percent.specialQuery else Percent.query) t

/-- A fragment in its written form. -/
def encodeFragment (t : Text) : Text :=
  Percent.encode Percent.fragment t

/-- The authority and the path of a text behind the slashes that announce an authority. -/
def readHierarchy (scheme : Scheme) (followed : Bool) (t : Text) :
    Except Error (Authority × Path) := do
  let isEnd := isSlash scheme.isSpecial
  let pathText := t.dropWhile (!isEnd ·)
  let (authority, left) ←
    readAuthority scheme (followed || !pathText.isEmpty) (t.takeWhile (!isEnd ·))
  return (authority, readPath scheme (left ++ pathText))

/-- The authority and the path of a text in the scheme of files. -/
def readFile (t : Text) : Except Error (Authority × Path) :=
  let nobody : Authority := ⟨[], none, none, none⟩
  match t with
  | a :: b :: rest =>
    if isSlash true a && isSlash true b then
      let hostText := rest.takeWhile fun c => !isSlash true c
      let pathText := rest.dropWhile fun c => !isSlash true c
      -- What stands where a host would may be a drive, which belongs to the path.
      if isDriveLetter hostText then .ok (nobody, readPathFrom .file [] rest)
      else if hostText.isEmpty then .ok (nobody, readPathFrom .file [] pathText)
      else do
        let host ← Host.read hostText
        let named := if host = .name "localhost".toList then none else some host
        return ({ nobody with host := named }, readPathFrom .file [] pathText)
    else .ok (nobody, readPathFrom .file [] t)
  | _ => .ok (nobody, readPathFrom .file [] t)

/-- The authority and the path of what follows the colon of a scheme. -/
def readBody (scheme : Scheme) (followed : Bool) (t : Text) :
    Except Error (Option Authority × Path) :=
  match scheme with
  | .file => (readFile t).map fun found => (some found.1, found.2)
  | .other _ =>
    match t with
    | '/' :: '/' :: rest =>
      (readHierarchy scheme followed rest).map fun found => (some found.1, found.2)
    | '/' :: rest => .ok (none, readPathFrom scheme [] ('/' :: rest))
    | _ => .ok (none, .plain (Percent.encode Percent.control t))
  -- Any number of slashes announces an authority here, and even none.
  | _ =>
    (readHierarchy scheme followed (t.dropWhile (isSlash true))).map
      fun found => (some found.1, found.2)

/-- The parts of a text: what comes before the query, the query and the fragment. -/
def cutParts (t : Text) : Text × Option Text × Option Text :=
  let (front, fragment) := cut '#' t
  let (main, query) := cut '?' front
  (main, query, fragment)

/-- Reads an absolute address. -/
def parseText (t : Text) : Except Error Url :=
  let (main, query, fragment) := cutParts (clean t)
  match readScheme? main with
  | none => .error .relativeWithoutBase
  | some (scheme, rest) => do
    let (authority, path) ← readBody scheme (query.isSome || fragment.isSome) rest
    return ⟨scheme, authority, path, query.map (encodeQuery scheme), fragment.map encodeFragment⟩

def parse (s : String) : Except Error Url :=
  parseText s.toList

end RestConformance.Url
