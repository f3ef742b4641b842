import RestConformance.Json.Basic
import RestConformance.Text.Basic
import RestConformance.Http.Basic
import RestConformance.Outcome

/-!
# Assertions

What can be asserted of a captured response, and what is reported of an assertion that does not
hold. A validator is a routine of assertions, made when a test case is defined; it may break off.

A server tells of a failure in an envelope with the class and the code of the error. A signature
names both. It is looked for as two fragments of the envelope, each of which ends inside the value
of a member, so that a class or a code may be given by its start.

## Main definitions

* `ErrorSignature` – the class and the code of an error;
* `AssertionFailure` – an assertion that did not hold;
* `Capture.assertStatus`, `Capture.assertSignature`, `Capture.assertContains` – the assertions;
* `Validator` – a routine over a capture, and `Validator.all`, several of them in order.
-/

namespace RestConformance

/-! ### Error signatures -/

/-- The class and the code of an error. -/
structure ErrorSignature where
  className : String
  code : String
  deriving DecidableEq, Repr

namespace ErrorSignature

/-- What an envelope of the class holds. -/
def classFragment (signature : ErrorSignature) : String :=
  "error-code-class\":\"" ++ signature.className

/-- What an envelope of the code holds. -/
def codeFragment (signature : ErrorSignature) : String :=
  "error-code\":\"" ++ signature.code

/-- The text of a signature: the code, and the class in parentheses. -/
def text (signature : ErrorSignature) : String :=
  signature.code ++ " (" ++ signature.className ++ ")"

def toJson (signature : ErrorSignature) : Json :=
  .object [("class", .string signature.className), ("code", .string signature.code)]

def ofJson? (value : Json) : Option ErrorSignature := do
  match ← value.requiredFields? ["class", "code"] with
  | [className, code] => return ⟨← className.string?, ← code.string?⟩
  | _ => none

end ErrorSignature

/-! ### Assertions -/

/-- An assertion that did not hold. -/
inductive AssertionFailure where
  | statusMismatch (expected actual : UInt16)
  | missingErrorFragment (fragment : String)
  | missingSubstring (needle : String)
  deriving DecidableEq, Repr

namespace AssertionFailure

def kind : AssertionFailure → String
  | .statusMismatch .. => "status_mismatch"
  | .missingErrorFragment _ => "missing_error_fragment"
  | .missingSubstring _ => "missing_substring"

def message : AssertionFailure → String
  | .statusMismatch expected actual =>
    "expected status " ++ toString expected.toNat ++ ", got " ++ toString actual.toNat
  | .missingErrorFragment fragment => "error response doesn't contain \x60" ++ fragment ++ "\x60"
  | .missingSubstring needle => "Server response doesn't contain: " ++ needle

def toJson (failure : AssertionFailure) : Json :=
  .object (("kind", .string failure.kind) ::
    match failure with
    | .statusMismatch expected actual =>
      [("expected", .integer expected.toNat), ("actual", .integer actual.toNat)]
    | .missingErrorFragment fragment => [("fragment", .string fragment)]
    | .missingSubstring needle => [("needle", .string needle)])

/-- The number of the kind of a name, counting from zero. -/
def kindNumber? (name : String) : Option Nat :=
  ["status_mismatch", "missing_error_fragment", "missing_substring"].idxOf? name

/-- Reads the fields of a failure of the kind with a number. -/
def ofFields? (number : Nat) (fields : Json) : Option AssertionFailure := do
  match number with
  | 0 =>
    match ← fields.requiredFields? ["expected", "actual"] with
    | [expected, actual] => return .statusMismatch (← expected.word16?) (← actual.word16?)
    | _ => none
  | 1 =>
    match ← fields.requiredFields? ["fragment"] with
    | [fragment] => return .missingErrorFragment (← fragment.string?)
    | _ => none
  | 2 =>
    match ← fields.requiredFields? ["needle"] with
    | [needle] => return .missingSubstring (← needle.string?)
    | _ => none
  | _ => none

/-- Reads a failure whose kind is given by name. -/
def ofJson? (value : Json) : Option AssertionFailure := do
  let (kind, fields) ← value.tagged? "kind"
  ofFields? (← kind.string?.bind kindNumber?) fields

/-- Reads a failure whose kind is given by name or by number. -/
def ofNumberedJson? (value : Json) : Option AssertionFailure := do
  let (kind, fields) ← value.tagged? "kind"
  ofFields? (← (kind.string?.bind kindNumber?).or (kind.natural? 3)) fields

end AssertionFailure

/-- Whether a string occurs in another one. -/
def occursIn (needle hay : String) : Bool :=
  Text.contains hay.toList needle.toList

namespace Capture

/-- Asserts that the response has a status. -/
def assertStatus (capture : Capture) (expected : UInt16) : Except AssertionFailure Unit :=
  if capture.status = expected then .ok ()
  else .error (.statusMismatch expected capture.status)

/-- Asserts that the error channel holds a fragment. -/
def assertErrorFragment (capture : Capture) (fragment : String) : Except AssertionFailure Unit :=
  if occursIn fragment capture.errorText then .ok ()
  else .error (.missingErrorFragment fragment)

/-- Asserts that the error channel holds the envelope of a signature: the class first, then the
code. -/
def assertSignature (capture : Capture) (signature : ErrorSignature) :
    Except AssertionFailure Unit := do
  capture.assertErrorFragment signature.classFragment
  capture.assertErrorFragment signature.codeFragment

/-- Asserts that the error channel holds the envelope of a class and a code. -/
def assertServerError (capture : Capture) (className code : String) :
    Except AssertionFailure Unit :=
  capture.assertSignature ⟨className, code⟩

/-- Asserts that the effective text holds a text. -/
def assertContains (capture : Capture) (needle : String) : Except AssertionFailure Unit :=
  if occursIn needle capture.effectiveText then .ok ()
  else .error (.missingSubstring needle)

end Capture

/-- A routine of assertions over a captured response. -/
abbrev Validator := Capture → Outcome AssertionFailure Unit

namespace Validator

/-- The validator of one assertion. -/
def ofAssertion (assertion : Capture → Except AssertionFailure Unit) : Validator :=
  fun capture => .ofExcept (assertion capture)

/-- Asserts a status and nothing else. -/
def status (expected : UInt16) : Validator :=
  ofAssertion fun capture => capture.assertStatus expected

/-- Several validators in order. The first one that does not return decides. -/
def all : List Validator → Validator
  | [], _ => .returned ()
  | validator :: rest, capture => (validator capture).bind fun _ => all rest capture

/-- Breaks off with a payload. -/
def crash (payload : Crash) : Validator :=
  fun _ => .crashed payload

end Validator

end RestConformance
