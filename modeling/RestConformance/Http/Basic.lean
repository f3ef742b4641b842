import RestConformance.Json.Basic

/-!
# Methods and captured responses

The four methods that requests are sent with, of which only some carry a body, and what is kept of a
response: the status and the text of the body, which goes to one of two channels. Statuses from 400
on put it into the error channel, all others into the success channel.

## Main definitions

* `Http.Method` – a method of a request;
* `Capture` – a captured response;
* `Capture.ofBody` – the capture of a status and a body;
* `Capture.effectiveText` – the text that assertions look at.
-/

namespace RestConformance

/-! ### Methods -/

namespace Http

/-- What a request asks of a resource. -/
inductive Method where
  | get
  | post
  | put
  | delete
  deriving DecidableEq, Repr

namespace Method

def name : Method → String
  | .get => "GET"
  | .post => "POST"
  | .put => "PUT"
  | .delete => "DELETE"

/-- Whether requests of a method carry a body. -/
def hasBody : Method → Bool
  | .post | .put => true
  | .get | .delete => false

def ofName? (name : String) : Option Method :=
  if name = "GET" then some .get
  else if name = "POST" then some .post
  else if name = "PUT" then some .put
  else if name = "DELETE" then some .delete
  else none

theorem ofName?_name (method : Method) : ofName? method.name = some method := by
  cases method <;> rfl

/-- The JSON form of a method, which is its name. -/
def toJson (method : Method) : Json :=
  .string method.name

/-- Reads a method, written as its name or as an object whose one member has that name and is
null. -/
def ofJson? : Json → Option Method
  | .string name => ofName? name
  | .object ((name, value) :: rest) =>
    if rest.all (fun member => member.1 = name) ∧ ((rest.map Prod.snd).getLastD value) == .null then
      ofName? name
    else none
  | _ => none

end Method

end Http

/-! ### Captured responses -/

structure Capture where
  status : UInt16
  successText : String
  errorText : String
  deriving DecidableEq, Repr

namespace Capture

/-- The lowest status that means an error. -/
def errorThreshold : UInt16 := 400

/-- Whether a status means an error. -/
def isErrorStatus (status : UInt16) : Bool :=
  errorThreshold ≤ status

def ofBody (status : UInt16) (body : String) : Capture :=
  if isErrorStatus status then ⟨status, "", body⟩ else ⟨status, body, ""⟩

def isError (capture : Capture) : Bool :=
  isErrorStatus capture.status

/-- The text of the success channel, or that of the error channel if the first is empty. -/
def effectiveText (capture : Capture) : String :=
  if capture.successText = "" then capture.errorText else capture.successText

theorem status_ofBody (status : UInt16) (body : String) : (ofBody status body).status = status := by
  unfold ofBody; split <;> rfl

theorem effectiveText_ofBody (status : UInt16) (body : String) :
    (ofBody status body).effectiveText = body := by
  unfold ofBody effectiveText
  split
  · rfl
  · by_cases h : body = "" <;> simp [h]

def toJson (capture : Capture) : Json :=
  .object [("status", .integer capture.status.toNat),
    ("success_text", .string capture.successText), ("error_text", .string capture.errorText)]

def ofJson? (value : Json) : Option Capture := do
  match ← value.requiredFields? ["status", "success_text", "error_text"] with
  | [status, success, error] => return ⟨← status.word16?, ← success.string?, ← error.string?⟩
  | _ => none

end Capture

end RestConformance
