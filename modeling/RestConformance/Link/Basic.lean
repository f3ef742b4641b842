import RestConformance.Link.Inputs
import RestConformance.Json.Basic

/-!
# Links

A link is a connector configuration that a server keeps under a name. Its inputs are named by the
group that they belong to, a point, and their name in the group.

A fixture is the link that is created before each unit of a run and deleted behind it, because some
cases expect one to be there.

## Main definitions

* `Link` – a link, and `Link.withInput`, the link with a value for an input;
* `LinkFixture` – what the link around each unit is like;
* `LinkFixture.applyTo` – a link with the name and the inputs of a fixture.
-/

namespace RestConformance

/-- A connector configuration. -/
structure Link where
  /-- The name that the server keeps it under. -/
  name : String
  connectorName : String
  inputs : Inputs
  deriving DecidableEq

namespace Link

/-- The input that names the class of the database driver. -/
def driverClassKey : String := "linkConfig.jdbcDriver"

/-- The input that says where the database is. -/
def connectionStringKey : String := "linkConfig.connectionString"

/-- The input that names the user of the database. -/
def usernameKey : String := "linkConfig.username"

/-- The input that holds the password of that user. -/
def passwordKey : String := "linkConfig.password"

/-- A link of a connector, with no name and no inputs. -/
def ofConnector (connectorName : String) : Link :=
  ⟨"", connectorName, .empty⟩

/-- The link under another name. -/
def withName (link : Link) (name : String) : Link :=
  { link with name := name }

/-- The link with a value for an input. -/
def withInput (link : Link) (key value : String) : Link :=
  { link with inputs := link.inputs.set key value }

/-- The value of an input. -/
def input? (link : Link) (key : String) : Option String :=
  link.inputs.get? key

def toJson (link : Link) : Json :=
  .object [("name", .string link.name), ("connector_name", .string link.connectorName),
    ("inputs", .object (link.inputs.entries.map fun entry => (entry.1, .string entry.2)))]

def ofJson? (value : Json) : Option Link := do
  match ← value.requiredFields? ["name", "connector_name", "inputs"] with
  | [name, connectorName, inputs] =>
    return ⟨← name.string?, ← connectorName.string?, .ofList (← inputs.strings?)⟩
  | _ => none

end Link

/-! ### Fixtures -/

/-- What the link around each unit is like. -/
structure LinkFixture where
  name : String
  connectorName : String
  driverClass : String
  connectionString : String
  username : String
  password : String
  deriving DecidableEq, Repr

namespace LinkFixture

/-- The fixture of a run that names none. -/
def standard : LinkFixture where
  name := "first-link"
  connectorName := "generic-jdbc-connector"
  driverClass := "org.apache.derby.jdbc.ClientDriver"
  connectionString := "jdbc:derby:memory:invalid-rest-calls-test;create=true"
  username := "sqoop"
  password := "is-awesome"

/-- Gives a link the name and the inputs of the fixture. -/
def applyTo (fixture : LinkFixture) (link : Link) : Link :=
  link.withName fixture.name
    |>.withInput Link.driverClassKey fixture.driverClass
    |>.withInput Link.connectionStringKey fixture.connectionString
    |>.withInput Link.usernameKey fixture.username
    |>.withInput Link.passwordKey fixture.password

def toJson (fixture : LinkFixture) : Json :=
  .object [("name", .string fixture.name), ("connector_name", .string fixture.connectorName),
    ("driver_class", .string fixture.driverClass),
    ("connection_string", .string fixture.connectionString),
    ("username", .string fixture.username), ("password", .string fixture.password)]

def ofJson? (value : Json) : Option LinkFixture := do
  match ← value.requiredFields? ["name", "connector_name", "driver_class", "connection_string",
    "username", "password"] with
  | [name, connectorName, driverClass, connectionString, username, password] =>
    return ⟨← name.string?, ← connectorName.string?, ← driverClass.string?,
      ← connectionString.string?, ← username.string?, ← password.string?⟩
  | _ => none

end LinkFixture

end RestConformance
