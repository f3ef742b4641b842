import RestConformance.Assertion
import RestConformance.Http.Basic
import RestConformance.Text.Basic
import RestConformance.Text.Bytes

/-!
# Test cases and test units

A test case describes a request and pairs it with the validator of its response. The name of a case
is never blank, and only methods that can carry a body have one.

A registry of cases becomes a list of units, one for each case and in the same order. A unit has an
identifier that is known before it runs and that no other unit of the registry has.

## Main definitions

* `TestCase` – a case;
* `TestCase.build` – a case from its parts, or the reason why there is none;
* `TestCase.get`, `TestCase.post` – the two common kinds of cases;
* `TestUnit` – a case under an identifier;
* `TestUnit.identifierOf` – the identifier of a case in a suite;
* `expand` – the units of a registry.
-/

namespace RestConformance

/-! ### Cases -/

/-- A request and the validator of its response. -/
structure TestCase where
  name : String
  /-- The path of the resource, relative to the address of the server. -/
  path : String
  method : Http.Method
  body : Option Bytes
  /-- What the response is held against. -/
  validator : Validator
  name_not_blank : isBlankString name = false
  /-- There is a body only where the method can carry it. -/
  body_eq_none : method.hasBody = false → body = none

namespace TestCase

/-- Why some parts make no case. -/
inductive Error where
  | blankName (path : String)
  | bodyNotAllowed (method : Http.Method)
  deriving DecidableEq, Repr

def Error.message : Error → String
  | .blankName path => "test case for '" ++ path ++ "' has an empty name"
  | .bodyNotAllowed method => method.name ++ " requests cannot carry a body"

/-- The body that a request of a method has. An empty body is none where the method carries no
body. -/
def admittedBody (method : Http.Method) (body : Option Bytes) : Except Error (Option Bytes) :=
  if method.hasBody then .ok body
  else
    match body with
    | some (_ :: _) => .error (.bodyNotAllowed method)
    | some [] | none => .ok none

theorem admittedBody_eq_none {method : Http.Method} {body admitted : Option Bytes}
    (h : admittedBody method body = .ok admitted) (hm : method.hasBody = false) :
    admitted = none := by
  unfold admittedBody at h
  rw [if_neg (by simp [hm])] at h
  split at h <;> simp_all

/-- The case of some parts. A blank name is told before a body that is not allowed. -/
def build (name path : String) (method : Http.Method) (body : Option Bytes)
    (validator : Validator) : Except Error TestCase :=
  if hn : isBlankString name then .error (.blankName path)
  else
    match hb : admittedBody method body with
    | .ok admitted =>
      .ok ⟨name, path, method, admitted, validator, by simpa using hn, admittedBody_eq_none hb⟩
    | .error error => .error error

/-- A case that reads a resource. -/
def get (name path : String) (validator : Validator) : Except Error TestCase :=
  build name path .get none validator

/-- A case that sends a text. -/
def post (name path text : String) (validator : Validator) : Except Error TestCase :=
  build name path .post (some (Utf8.encodeString text)) validator

/-- Holds a response against the validator of the case. -/
def validate (testCase : TestCase) (capture : Capture) : Outcome AssertionFailure Unit :=
  testCase.validator capture

end TestCase

/-! ### Units -/

/-- A case under the identifier that it is reported by. -/
structure TestUnit where
  identifier : String
  testCase : TestCase

namespace TestUnit

/-- The identifier of a case in a suite: suite, path, method and name. -/
def identifierOf (suite : String) (testCase : TestCase) : String :=
  suite ++ " " ++ testCase.path ++ "[" ++ testCase.method.name ++ "]: " ++ testCase.name

/-- The unit of a case in a suite. -/
def ofCase (suite : String) (testCase : TestCase) : TestUnit :=
  ⟨identifierOf suite testCase, testCase⟩

end TestUnit

/-- Why a registry has no units. -/
inductive ExpansionError where
  | blankSuite
  /-- Two cases have this identifier. -/
  | duplicateUnit (identifier : String)
  deriving DecidableEq, Repr

def ExpansionError.message : ExpansionError → String
  | .blankSuite => "invalid identifier: suite name cannot be empty"
  | .duplicateUnit identifier => "duplicate test unit identifier: " ++ identifier

/-- The units of cases that come behind units with the identifiers `seen`. -/
def expandFrom (suite : String) (seen : List String) :
    List TestCase → Except ExpansionError (List TestUnit)
  | [] => .ok []
  | testCase :: rest =>
    let unit := TestUnit.ofCase suite testCase
    if unit.identifier ∈ seen then .error (.duplicateUnit unit.identifier)
    else (expandFrom suite (unit.identifier :: seen) rest).map (unit :: ·)

/-- The units of a registry. -/
def expand (suite : String) (registry : List TestCase) : Except ExpansionError (List TestUnit) :=
  if isBlankString suite then .error .blankSuite else expandFrom suite [] registry

end RestConformance
