import RestConformance.TestCase

/-!
# The registry

The calls that a server is held against, in the order in which they are made. Several of them
expect that the link of the fixture is there.

## Main definitions

* `Registry.restCalls` – the calls.
-/

namespace RestConformance.Registry

/-- The class that the server gives all its errors. -/
def serverErrorClass : String := "org.apache.sqoop.server.common.ServerError"

/-- Expects an error with a code. -/
def serverError (code : String) : Validator :=
  .all [.status 500, .ofAssertion (·.assertServerError serverErrorClass code)]

/-- Expects an error with a code and a text. -/
def serverErrorWith (code text : String) : Validator :=
  .all [.status 500, .ofAssertion (·.assertServerError serverErrorClass code),
    .ofAssertion (·.assertContains text)]

/-- Expects success and a text. -/
def okContaining (text : String) : Validator :=
  .all [.status 200, .ofAssertion (·.assertContains text)]

/-- A call that reads a resource. -/
def reading (name path : String) (validator : Validator)
    (name_not_blank : isBlankString name = false := by decide +kernel) : TestCase :=
  ⟨name, path, .get, none, validator, name_not_blank, fun _ => rfl⟩

/-- A call that sends a text. -/
def sending (name path text : String) (validator : Validator)
    (name_not_blank : isBlankString name = false := by decide +kernel) : TestCase :=
  ⟨name, path, .post, some (Utf8.encodeString text), validator, name_not_blank, by
    intro h; cases h⟩

/-- The calls, in order. -/
def restCalls : List TestCase :=
  [reading "Valid" "version" (.status 200),
    sending "Invalid post request" "version" "Random text" (serverError "SERVER_0002"),
    reading "Get all connectors" "v1/connector/all" (.status 200),
    reading "Get connector by ID" "v1/connector/1" (.status 200),
    reading "Get connector by name" "v1/connector/generic-jdbc-connector" (.status 200),
    reading "Get connector by non-existing ID" "v1/connector/666" (serverError "SERVER_0006"),
    reading "Get connector by non-existing name" "v1/connector/jarcecs-cool-connector"
      (serverError "SERVER_0005"),
    sending "Invalid post request" "v1/connector" "Random data" (serverError "SERVER_0002"),
    reading "Get all links" "v1/link/all" (okContaining "first-link"),
    reading "Get link by name" "v1/link/first-link" (okContaining "first-link"),
    reading "Get all links for connector" "v1/link/all?cname=generic-jdbc-connector"
      (okContaining "first-link"),
    reading "Get non existing link" "v1/link/i-dont-exists"
      (serverErrorWith "SERVER_0006" "Invalid link name: i-dont-exists"),
    reading "Get links for non existing connector" "v1/link/all?cname=i-dont-exists"
      (serverErrorWith "SERVER_0005" "Invalid connector: i-dont-exists")]

end RestConformance.Registry
