import RestConformance.Proofs.Link.Payload
import RestConformance.Proofs.Server.PathJoining
import RestConformance.Proofs.Suite.Course
import RestConformance.Proofs.Url.Front

/-!
# Links and requests of a unit

What the calls of a unit are about, in words of its own: what a link is like that the fixture was
applied to, what the document is like that it is posted with, what a request asks of a server, and
which requests may be sent at all. How far a unit gets follows from the answers to its calls.

## Main definitions

* `LinkFixture.IsAppliedTo fixture link applied` – a link with the name and the inputs of a fixture;
* `LinkFixture.document` – what is posted for a new link;
* `IsWebAddress text`, `Http.MakesWebAddress base path` – an absolute address of the web;
* `Http.Request.Asks` – a request for a path on a server, with its method and body.

## Main results

* `LinkFixture.isAppliedTo_iff` – there is one link with a fixture, the one that it makes;
* `LinkFixture.read?_payload` – the bytes that are posted are those of the document;
* `Http.Request.Asks.check_iff` – a request may be sent just if its address is one of the web;
* `UnitCourse.stages` – how far a unit gets.
-/

namespace RestConformance

/-! ### Links with a fixture -/

namespace LinkFixture

variable (fixture : LinkFixture)

/-- The link has the name of the fixture and its four inputs. Its connector and all other inputs are
those of `link`. -/
structure IsAppliedTo (link applied : Link) : Prop where
  name_eq : applied.name = fixture.name
  connectorName_eq : applied.connectorName = link.connectorName
  driverClass_eq : applied.inputs.get? "linkConfig.jdbcDriver" = some fixture.driverClass
  connectionString_eq :
    applied.inputs.get? "linkConfig.connectionString" = some fixture.connectionString
  username_eq : applied.inputs.get? "linkConfig.username" = some fixture.username
  password_eq : applied.inputs.get? "linkConfig.password" = some fixture.password
  other_eq : ∀ key, key ∉ ["linkConfig.jdbcDriver", "linkConfig.connectionString",
    "linkConfig.username", "linkConfig.password"] → applied.inputs.get? key = link.inputs.get? key

/-- What is found in a link with the fixture. -/
theorem get?_applyTo (link : Link) (key : String) :
    (fixture.applyTo link).inputs.get? key =
      if key = "linkConfig.password" then some fixture.password
      else if key = "linkConfig.username" then some fixture.username
      else if key = "linkConfig.connectionString" then some fixture.connectionString
      else if key = "linkConfig.jdbcDriver" then some fixture.driverClass
      else link.inputs.get? key := by
  simp only [applyTo, Link.withInput, Link.withName, Inputs.get?_set]
  rfl

theorem isAppliedTo_applyTo (link : Link) : fixture.IsAppliedTo link (fixture.applyTo link) where
  name_eq := rfl
  connectorName_eq := rfl
  driverClass_eq := by simp [get?_applyTo]
  connectionString_eq := by simp [get?_applyTo]
  username_eq := by simp [get?_applyTo]
  password_eq := by simp [get?_applyTo]
  other_eq key hkey := by
    simp only [List.mem_cons, List.not_mem_nil, or_false, not_or] at hkey
    simp [get?_applyTo, hkey]

/-- There is one link with a fixture, the one that the fixture makes. -/
theorem isAppliedTo_iff {link applied : Link} :
    fixture.IsAppliedTo link applied ↔ applied = fixture.applyTo link := by
  constructor
  · intro h
    have hinputs : applied.inputs = (fixture.applyTo link).inputs := by
      refine Inputs.eq_of_get? fun key => ?_
      rw [get?_applyTo]
      split_ifs with hpassword husername hconnection hdriver
      · rw [hpassword, h.password_eq]
      · rw [husername, h.username_eq]
      · rw [hconnection, h.connectionString_eq]
      · rw [hdriver, h.driverClass_eq]
      · exact h.other_eq key (by simp [hpassword, husername, hconnection, hdriver])
    calc applied = ⟨applied.name, applied.connectorName, applied.inputs⟩ := rfl
      _ = ⟨fixture.name, link.connectorName, (fixture.applyTo link).inputs⟩ := by
        rw [h.name_eq, h.connectorName_eq, hinputs]
      _ = fixture.applyTo link := rfl
  · rintro rfl
    exact fixture.isAppliedTo_applyTo link

/-! ### The posted document -/

/-- The document that a new link with the fixture is posted with. Its inputs are in one group, in
the order of their names. -/
def document : Json :=
  .object [("link", .object [("name", .string fixture.name),
    ("connector-name", .string fixture.connectorName), ("enabled", .bool true),
    ("link-config-values", .object [("configs", .array [.object [("name", .string "linkConfig"),
      ("inputs", .array [
        .object [("name", .string "linkConfig.connectionString"),
          ("value", .string fixture.connectionString)],
        .object [("name", .string "linkConfig.jdbcDriver"),
          ("value", .string fixture.driverClass)],
        .object [("name", .string "linkConfig.password"), ("value", .string fixture.password)],
        .object [("name", .string "linkConfig.username"),
          ("value", .string fixture.username)]])]])])])]

theorem entries_applyTo (connectorName : String) :
    (fixture.applyTo (.ofConnector connectorName)).inputs.entries =
      [("linkConfig.connectionString", fixture.connectionString),
        ("linkConfig.jdbcDriver", fixture.driverClass), ("linkConfig.password", fixture.password),
        ("linkConfig.username", fixture.username)] := by
  -- Every key comes behind those before it in this order.
  have hconnection : Link.connectionStringKey < Link.driverClassKey := by decide
  have husername : ¬Link.usernameKey < Link.connectionStringKey ∧
      Link.usernameKey ≠ Link.connectionStringKey ∧ ¬Link.usernameKey < Link.driverClassKey ∧
      Link.usernameKey ≠ Link.driverClassKey := by
    decide
  have hpassword : ¬Link.passwordKey < Link.connectionStringKey ∧
      Link.passwordKey ≠ Link.connectionStringKey ∧ ¬Link.passwordKey < Link.driverClassKey ∧
      Link.passwordKey ≠ Link.driverClassKey ∧ Link.passwordKey < Link.usernameKey := by
    decide
  simp only [applyTo, Link.withInput, Link.withName, Link.ofConnector, Inputs.set, Inputs.empty,
    insertEntry, hconnection, husername, hpassword, if_true, if_false]
  rfl

/-- A new link with the fixture has one group of inputs. -/
theorem groups_applyTo (connectorName : String) :
    (fixture.applyTo (.ofConnector connectorName)).groups =
      [⟨"linkConfig", [("linkConfig.connectionString", fixture.connectionString),
        ("linkConfig.jdbcDriver", fixture.driverClass), ("linkConfig.password", fixture.password),
        ("linkConfig.username", fixture.username)]⟩] := by
  have hgroup : ∀ key ∈ ["linkConfig.connectionString", "linkConfig.jdbcDriver",
      "linkConfig.password", "linkConfig.username"], Link.groupOf key = "linkConfig" := by
    decide
  simp only [List.forall_mem_cons] at hgroup
  rw [Link.groups, entries_applyTo]
  simp only [List.foldl_cons, List.foldl_nil, hgroup, InputGroup.addTo, String.lt_irrefl, if_false,
    if_true, List.cons_append, List.nil_append]

theorem document_applyTo :
    (fixture.applyTo (.ofConnector fixture.connectorName)).document = fixture.document := by
  rw [Link.document, groups_applyTo]
  rfl

/-- The bytes that a new link with the fixture is posted with are read back as its document. -/
theorem read?_payload :
    (Utf8.decodeString? (fixture.applyTo (.ofConnector fixture.connectorName)).payload).bind
      Json.read? = some fixture.document := by
  rw [Link.read?_payload, document_applyTo]

end LinkFixture

/-! ### Requests on a server -/

/-- The text is an absolute address of the web. -/
def IsWebAddress (text : String) : Prop :=
  ∃ url, Url.parse text = .ok url ∧ (url.scheme = .http ∨ url.scheme = .https)

namespace Http

/-- The path behind the address makes an absolute address of the web. -/
def MakesWebAddress (base path : String) : Prop :=
  ∃ url, IsJoin base path url ∧ IsWebAddress url

/-- The request asks the server at `base` for a path. -/
structure Request.Asks (request : Request) (method : Method) (base path : String)
    (body : Option Bytes) : Prop where
  method_eq : request.method = method
  isJoin : IsJoin base path request.url
  body_eq : request.body = body

variable {request : Request} {method : Method} {base path : String} {body : Option Bytes}

theorem makesWebAddress_iff : MakesWebAddress base path ↔ IsWebAddress (resolvePath base path) := by
  constructor
  · rintro ⟨url, hjoin, hweb⟩
    rwa [← isJoin_iff.1 hjoin]
  · exact fun hweb => ⟨_, isJoin_resolvePath base path, hweb⟩

theorem Request.asks_resolvePath (method : Method) (base path : String) (body : Option Bytes) :
    Request.Asks ⟨method, resolvePath base path, body⟩ method base path body :=
  ⟨rfl, isJoin_resolvePath base path, rfl⟩

theorem Request.ofCase_asks (base : String) (testCase : TestCase) :
    (Request.ofCase base testCase).Asks testCase.method base testCase.path testCase.body :=
  asks_resolvePath _ _ _ _

/-- There is one such request only. -/
theorem Request.asks_iff :
    request.Asks method base path body ↔ request = ⟨method, resolvePath base path, body⟩ := by
  constructor
  · rintro ⟨rfl, hjoin, rfl⟩
    rw [← isJoin_iff.1 hjoin]
  · rintro rfl
    exact asks_resolvePath method base path body

/-- A request on a server may be sent just if its address is one of the web. -/
theorem Request.Asks.check_iff (h : request.Asks method base path body) :
    request.check = .ok () ↔ MakesWebAddress base path := by
  obtain rfl := Request.asks_iff.1 h
  rw [makesWebAddress_iff]
  unfold Request.check IsWebAddress
  dsimp only
  rw [isBlankString_resolvePath, if_neg Bool.false_ne_true]
  cases Url.parse (resolvePath base path) with
  | error error => simp
  | ok url =>
    simp only [Except.ok.injEq, exists_eq_left', ← Url.isHttp_iff]
    cases url.scheme.isHttp <;> simp

end Http

/-! ### Stages of a unit -/

/-- The calls of a unit end at one of four stages: the link is not created, it is not saved, the
request of the case is not sent, or it is. Only in the last stage the unit can pass. -/
theorem UnitCourse.stages {fixture : LinkFixture} {baseUrl : String} {testCase : TestCase}
    {calls : List SuiteEvent} {outcome : UnitOutcome}
    (h : UnitCourse fixture baseUrl testCase calls outcome) :
    (∃ answer, calls = [.created fixture.connectorName answer] ∧
      (∀ link, answer ≠ .returned link) ∧ outcome ≠ .passed) ∨
    (∃ link answer, calls = [.created fixture.connectorName (.returned link),
        .saved (fixture.applyTo link) answer] ∧ answer ≠ .returned () ∧ outcome ≠ .passed) ∨
    (∃ link, calls = [.created fixture.connectorName (.returned link),
        .saved (fixture.applyTo link) (.returned ())] ∧
      ¬Http.MakesWebAddress baseUrl testCase.path ∧ outcome ≠ .passed) ∨
    (∃ link answer, calls = [.created fixture.connectorName (.returned link),
        .saved (fixture.applyTo link) (.returned ()),
        .requested (.ofCase baseUrl testCase) answer] ∧
      Http.MakesWebAddress baseUrl testCase.path ∧
      (outcome = .passed ↔
        ∃ capture, answer = .returned capture ∧ testCase.validate capture = .returned ())) := by
  rw [← (Http.Request.ofCase_asks baseUrl testCase).check_iff]
  cases h with
  | createFailed failure => exact .inl ⟨_, rfl, nofun, nofun⟩
  | createCrashed crash => exact .inl ⟨_, rfl, nofun, nofun⟩
  | saveFailed link failure => exact .inr (.inl ⟨link, _, rfl, nofun, nofun⟩)
  | saveCrashed link crash => exact .inr (.inl ⟨link, _, rfl, nofun, nofun⟩)
  | rejected link failure hcheck =>
    exact .inr (.inr (.inl ⟨link, rfl, by rw [hcheck]; nofun, nofun⟩))
  | requestFailed link failure hcheck =>
    exact .inr (.inr (.inr ⟨link, _, rfl, hcheck, by simp⟩))
  | requestCrashed link crash hcheck =>
    exact .inr (.inr (.inr ⟨link, _, rfl, hcheck, by simp⟩))
  | validatorCrashed link capture crash hcheck hvalidate =>
    exact .inr (.inr (.inr ⟨link, _, rfl, hcheck, by simp [hvalidate]⟩))
  | failed link capture failure hcheck hvalidate =>
    exact .inr (.inr (.inr ⟨link, _, rfl, hcheck, by simp [hvalidate]⟩))
  | passed link capture hcheck hvalidate =>
    exact .inr (.inr (.inr ⟨link, _, rfl, hcheck, by simp [hvalidate]⟩))

end RestConformance
