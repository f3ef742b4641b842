import RestConformance.Link.Basic
import RestConformance.Json.Printer
import RestConformance.Text.Basic
import RestConformance.Text.Bytes

/-!
# Link documents

The document that a server takes to save a link. It groups the inputs by the part of their name
before its first point, and names both groups and inputs in rising order.

## Main definitions

* `Link.groupOf` – the group of an input;
* `InputGroup.addTo` – one more input among some groups;
* `Link.groups` – the groups of a link with their inputs;
* `Link.document` – the document, and `Link.payload`, its bytes.
-/

namespace RestConformance

/-- Some inputs under a name. -/
structure InputGroup where
  name : String
  inputs : List (String × String)
  deriving DecidableEq, Repr

namespace InputGroup

/-- Puts an input behind those of the group of a name, among groups in order of their names. Where
there is no such group, the input starts one. -/
def addTo (name : String) (input : String × String) : List InputGroup → List InputGroup
  | [] => [⟨name, [input]⟩]
  | group :: rest =>
    if name < group.name then ⟨name, [input]⟩ :: group :: rest
    else if name = group.name then ⟨name, group.inputs ++ [input]⟩ :: rest
    else group :: addTo name input rest

def toJson (group : InputGroup) : Json :=
  .object [("name", .string group.name),
    ("inputs", .array (group.inputs.map fun entry =>
      .object [("name", .string entry.1), ("value", .string entry.2)]))]

end InputGroup

namespace Link

/-- The group that an input belongs to: what comes before the first point of its name, or the whole
name where it has none. -/
def groupOf (key : String) : String :=
  match Text.splitFirst '.' key.toList with
  | some (before, _) => String.ofList before
  | none => key

/-- The groups of a link in rising order of their names. The inputs are taken in order, each to its
group. -/
def groups (link : Link) : List InputGroup :=
  link.inputs.entries.foldl (fun groups input => InputGroup.addTo (groupOf input.1) input groups) []

/-- The document of a link. -/
def document (link : Link) : Json :=
  .object [("link", .object [("name", .string link.name),
    ("connector-name", .string link.connectorName), ("enabled", .bool true),
    ("link-config-values", .object [("configs", .array (link.groups.map InputGroup.toJson))])])]

/-- The text that a link is saved with. -/
def payloadText (link : Link) : String :=
  link.document.compact

/-- The bytes that a link is saved with. -/
def payload (link : Link) : Bytes :=
  Utf8.encodeString link.payloadText

end Link

end RestConformance
