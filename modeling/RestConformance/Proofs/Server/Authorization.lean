import RestConformance.Proofs.Server.BaseAddress
import RestConformance.Proofs.Server.Preparation
import RestConformance.Proofs.Server.Traffic
import RestConformance.Proofs.Suite.Preservation

/-!
# How requests are authorised

Every request of a run is sent with the authorisation of its credentials. If the address of the
server names a user, that user is named before.

## Main definitions

* `Credentials.Authorise credentials own` – the values of the header that credentials stand for;
* `Settings.IsCall settings ofUser notes` – what a call of the client may read and send;
* `Settings.Called settings ofUser notes` – the notes are those of some calls.

## Main results

* `Http.authorization_of_prepare` – the authorisation of a prepared request;
* `Harness.traffic_authorised` – the authorisation of all requests of a run;
* `Harness.user_before_token` – a run that sends a user and a token.
-/

namespace RestConformance

open Url (Authority Host)

variable {σ : Type}

/-- The values of the authorization header that credentials stand for: one for a user with a
password, one for a token, and none where a user is only named. -/
inductive Credentials.Authorise : Credentials → List Bytes → Prop where
  | basic (username password : String) :
    Authorise (.basic username password) [Utf8.encode ("Basic ".toList ++
      Base64.encode (Utf8.encodeString (username ++ ":" ++ password)))]
  | bearer (token : String) :
    Authorise (.bearer token) [Utf8.encodeString ("Bearer " ++ token)]
  | pseudoUser (user : String) : Authorise (.pseudoUser user) []
  | anonymous : Authorise .anonymous []

namespace Http

theorem basicAuthorization_eq (username password : String) :
    basicAuthorization (Utf8.encodeString username) (Utf8.encodeString password) =
      Utf8.encode ("Basic ".toList ++
        Base64.encode (Utf8.encodeString (username ++ ":" ++ password))) := by
  have hpair : Utf8.encodeString (username ++ ":" ++ password) =
      Utf8.encodeString username ++ Utf8.encode [':'] ++ Utf8.encodeString password := by
    simp [Utf8.encodeString, Utf8.encode]
  rw [hpair, basicAuthorization]

theorem authorise_authorizationOf (credentials : Credentials) :
    credentials.Authorise (authorizationOf credentials) := by
  cases credentials with
  | anonymous => exact .anonymous
  | pseudoUser user => exact .pseudoUser user
  | basic username password =>
    rw [authorizationOf, basicAuthorization_eq]
    exact .basic username password
  | bearer token => exact .bearer token

/-- An address that names nobody asks for no header. -/
theorem takeUser_of_nobody {url : Url}
    (h : ∀ a ∈ url.authority, a.username = [] ∧ a.password = none) : (takeUser url).2 = [] := by
  unfold takeUser
  cases hauthority : url.authority with
  | none => rfl
  | some a =>
    obtain ⟨hname, hpassword⟩ := h a hauthority
    have hempty : unescape? [] = some [] := by decide +kernel
    simp [hname, hpassword, hempty]

/-- A prepared request carries the authorisation of the user in its address and that of its
credentials. -/
theorem authorization_of_prepare {credentials : Credentials} {request : Request}
    {wire : WireRequest} (h : prepare credentials request = .ok wire) :
    ∃ url, Url.parse request.url = .ok url ∧
      wire.authorization = (takeUser url).2 ++ authorizationOf credentials := by
  obtain ⟨url, hparse, -, -, rfl⟩ := exists_of_prepare h
  exact ⟨url, hparse, rfl⟩

end Http

namespace Settings

/-- What a call of the client may read and send: it asks for credentials, and if it gets some it may
send a request that carries the authorisation `ofUser` and that of the credentials. -/
inductive IsCall (settings : Settings) (ofUser : List Bytes) : List Http.Note → Prop where
  /-- Nothing is sent. -/
  | unsent {asked : List Http.Note} {answer : Except CredentialError Credentials} :
    Asked settings asked answer → IsCall settings ofUser asked
  /-- A request is sent, and its redirections behind it. -/
  | sent {asked rest : List Http.Note} {credentials : Credentials} {own : List Bytes}
    {wire : Http.WireRequest} :
    Asked settings asked (.ok credentials) → credentials.Authorise own →
      wire.authorization = ofUser ++ own →
        Http.IsExchange wire rest → IsCall settings ofUser (asked ++ rest)

/-- The notes are those of some calls of the client. -/
def Called (settings : Settings) (ofUser : List Bytes) (notes : List Http.Note) : Prop :=
  ∃ calls : List (List Http.Note),
    (∀ call ∈ calls, IsCall settings ofUser call) ∧ notes = calls.flatten

end Settings

namespace Harness

open Settings (Called IsCall)

variable {outside : Surroundings (StateM σ)} {settings : Settings} {ofUser : List Bytes}

/-- To tell of something is not noted. -/
theorem log_keeps (outside : Surroundings (StateM σ)) {P : List Http.Note → Prop}
    (entry : LogEntry) :
    Ensures (fun world => P world.1) (outside.watched.log entry) fun _ world => P world.1 :=
  Noting.silent_keeps _

/-- A call of the client adds its notes. -/
theorem execute_appends (request : Http.Request) (notes : List Http.Note)
    (hprepare : ∀ credentials wire, Http.prepare credentials request = .ok wire →
      wire.authorization = ofUser ++ Http.authorizationOf credentials) :
    Ensures (fun world => world.1 = notes) ((client outside.watched settings).execute request)
      fun _ world => ∃ call, IsCall settings ofUser call ∧ world.1 = notes ++ call := by
  unfold Http.Client.execute
  refine .bind (settings.credentialSource_appends outside notes) fun answer => ?_
  cases answer with
  | error e => exact .pure fun _ ⟨asked, hasked, hs⟩ => ⟨asked, .unsent hasked, hs⟩
  | ok credentials =>
    dsimp only
    split
    · exact .pure fun _ ⟨asked, hasked, hs⟩ => ⟨asked, .unsent hasked, hs⟩
    · next wire hwire =>
      have hwire := hprepare credentials wire hwire
      refine .bind (R := fun _ world => ∃ call, IsCall settings ofUser call ∧
        world.1 = notes ++ call) ?_ fun found => ?_
      · rintro world ⟨asked, hasked, hs⟩
        obtain ⟨rest, hrest, hnotes⟩ :=
          Http.follow_appends (outside.transport settings.timeoutMs) Http.redirectionLimit wire
            (notes ++ asked) world hs
        exact ⟨asked ++ rest, .sent hasked (Http.authorise_authorizationOf credentials) hwire hrest,
          hnotes.trans (List.append_assoc _ _ _)⟩
      -- What is left to do is to tell of the response.
      · cases found with
        | error failure => exact .pure fun _ hs => hs
        | ok found =>
          dsimp only
          split
          · exact .pure fun _ hs => hs
          · have hlog := log_keeps outside (P := fun later => ∃ call,
              IsCall settings ofUser call ∧ later = notes ++ call)
            exact .after (.forM hlog _) fun _ => .after (hlog _) fun _ => .pure fun _ hs => hs

/-- If the notes were those of calls before, they are those of calls behind the computation. -/
abbrev KeepsCalls (settings : Settings) (ofUser : List Bytes) {α : Type}
    (x : Noting Http.Note σ α) : Prop :=
  Ensures (fun world => Called settings ofUser world.1) x
    fun _ world => Called settings ofUser world.1

theorem execute_called (request : Http.Request)
    (hprepare : ∀ credentials wire, Http.prepare credentials request = .ok wire →
      wire.authorization = ofUser ++ Http.authorizationOf credentials) :
    KeepsCalls settings ofUser ((client outside.watched settings).execute request) := by
  rintro world ⟨calls, hcalls, hnotes⟩
  obtain ⟨call, hcall, happended⟩ := execute_appends request world.1 hprepare world rfl
  refine ⟨calls ++ [call], fun c hc => ?_, ?_⟩
  · rcases List.mem_append.1 hc with hold | hnew
    · exact hcalls c hold
    · rw [List.mem_singleton.1 hnew]
      exact hcall
  · rw [happended, hnotes, List.flatten_append, List.flatten_singleton]

theorem runner_execute : (runner outside.watched settings).execute =
    (client outside.watched settings).execute :=
  rfl

section Run

variable (hprepare : ∀ method path body credentials wire,
  Http.prepare credentials ⟨method, Http.resolvePath settings.baseUrl path, body⟩ = .ok wire →
    wire.authorization = ofUser ++ Http.authorizationOf credentials)

include hprepare

theorem send_called (method : Http.Method) (path : String) (body : Option Bytes) :
    KeepsCalls settings ofUser
      (RestFixtureClient.send (client outside.watched settings).execute outside.watched.log
        ⟨method, Http.resolvePath settings.baseUrl path, body⟩) := by
  refine .after (Noting.silent_keeps _) fun _ => ?_
  exact .after (execute_called _ (hprepare method path body)) fun _ => .pure fun _ hs => hs

theorem portsKeep :
    PortsKeep (fun world : List Http.Note × σ => Called settings ofUser world.1)
      (runner outside.watched settings) where
  create _ := .after (send_called hprepare _ _ _) fun _ => .pure fun _ hs => hs
  save _ := .after (send_called hprepare _ _ _) fun _ => .pure fun _ hs => hs
  delete _ := .after (send_called hprepare _ _ _) fun _ => .pure fun _ hs => hs
  log _ := Noting.silent_keeps _
  clock := Noting.silent_keeps _

theorem checkLeftover_called :
    KeepsCalls settings ofUser (checkLeftover outside.watched settings) := by
  have hcontains : ∀ name,
      KeepsCalls settings ofUser ((fixtures outside.watched settings).contains name) :=
    fun name => .after (send_called hprepare _ _ _) fun _ => .pure fun _ hs => hs
  refine .after (hcontains _) fun found => ?_
  exact .after (.forM (log_keeps outside) _) fun _ => .pure fun _ hs => hs

/-- The notes of a run are those of calls. -/
theorem run_called (stamp : RunStamp) :
    KeepsCalls settings ofUser (run outside.watched settings stamp) := by
  have hports : PortsKeep (fun world : List Http.Note × σ => Called settings ofUser world.1)
      (runner outside.watched settings) := portsKeep hprepare
  have hguarded : ∀ unit, KeepsCalls settings ofUser
      (Outcome.chain (runner outside.watched settings).setUp fun () =>
        (runner outside.watched settings).exercise unit) := by
    intro unit
    have hcase : KeepsCalls settings ofUser
        ((client outside.watched settings).execute (.ofCase settings.baseUrl unit.testCase)) :=
      execute_called _ (hprepare unit.testCase.method unit.testCase.path unit.testCase.body)
    refine hports.guarded unit fun _ => ?_
    rw [runner_execute]
    exact hcase
  refine .after (log_keeps outside _) fun _ => ?_
  refine .chain (hports.run hguarded stamp _ _) (fun report => ?_) (fun _ _ hs => hs)
    (fun _ _ hs => hs)
  refine .after (checkLeftover_called hprepare) fun found => ?_
  cases found <;> exact .pure fun _ hs => hs

end Run

/-- A run makes calls of its client and nothing else. Every request that such a call sends first is
authorised by the user that the address of the server names, if it does, and by the credentials of
the call. Where the address names nobody, it is by the credentials alone. -/
theorem traffic_authorised {lookup : String → Option String}
    (h : Settings.read lookup = .ok settings) (outside : Surroundings (StateM σ))
    (stamp : RunStamp) (s : σ) :
    ∃ home, Url.parse (Settings.baseValue lookup) = .ok home ∧
      Called settings (Http.takeUser home).2 (traffic outside settings stamp s) ∧
      ((∀ a ∈ home.authority, a.username = [] ∧ a.password = none) →
        Called settings [] (traffic outside settings stamp s)) := by
  obtain ⟨home, a, host, hparse, hweb, hbase⟩ := Settings.read_baseUrl h
  have hprepare : ∀ method path body credentials wire,
      Http.prepare credentials ⟨method, Http.resolvePath settings.baseUrl path, body⟩ = .ok wire →
        wire.authorization = (Http.takeUser home).2 ++ Http.authorizationOf credentials := by
    intro method path body credentials wire hwire
    obtain ⟨url, hurl, hauthorization⟩ := Http.authorization_of_prepare hwire
    obtain ⟨rest, -, hresolved⟩ := Settings.parse_resolvePath hweb hbase path
    rw [hurl] at hresolved
    -- An address that is read has the authority of the server.
    split at hresolved
    · obtain rfl := Except.ok.inj hresolved
      have huser : (Http.takeUser (Url.onServer home.scheme a rest)).2 = (Http.takeUser home).2 :=
        Http.takeUser_authority hweb.authority_eq.symm
      rw [hauthorization, huser]
    · cases hresolved
  have hcalled : Called settings (Http.takeUser home).2 (traffic outside settings stamp s) :=
    run_called hprepare stamp ([], s) ⟨[], nofun, rfl⟩
  refine ⟨home, hparse, hcalled, fun hnobody => ?_⟩
  rwa [Http.takeUser_of_nobody hnobody] at hcalled

/-- Variables that name a server by its address, and give a token. -/
def entrusted (address : String) (name : String) : Option String :=
  if name = Settings.Variable.bearerToken.name then some "token"
  else Settings.named address name

/-- The settings that these variables give. -/
def entrustedSettings (address : String) : Settings :=
  { Settings.standard with baseUrl := address, bearerToken := some "token" }

/-- An outside that never answers. -/
def deaf : Surroundings (StateM Unit) where
  fileContent _ := pure (.error .missing)
  transport _ _ := pure .dropped
  log _ := pure ()
  clock := pure 0

/-- The values of the authorisation of a request that was sent. -/
def authorizationNoted : Http.Note → List Bytes
  | .sent request _ => request.authorization
  | .read _ _ => []

/-- Where the address of the server names nobody, the token is all that goes out. -/
theorem traffic_authorised_by_token :
    Settings.read (entrusted "http://[::1]/") = .ok (entrustedSettings "http://[::1]/") ∧
      ((traffic deaf (entrustedSettings "http://[::1]/") ⟨"run", ⟨0, 0⟩⟩ ()).head?.map
        authorizationNoted) = some [Utf8.encodeString "Bearer token"] ∧
      Called (entrustedSettings "http://[::1]/") []
        (traffic deaf (entrustedSettings "http://[::1]/") ⟨"run", ⟨0, 0⟩⟩ ()) := by
  have hread : Settings.read (entrusted "http://[::1]/") =
      .ok (entrustedSettings "http://[::1]/") := by
    decide +kernel
  refine ⟨hread, by decide +kernel, ?_⟩
  obtain ⟨home, hparse, -, hnobody⟩ := traffic_authorised hread deaf ⟨"run", ⟨0, 0⟩⟩ ()
  have hnames : (Url.parse (Settings.baseValue (entrusted "http://[::1]/"))).map
      (fun url => url.authority.map fun a => (a.username, a.password)) =
        .ok (some ([], none)) := by
    decide +kernel
  rw [hparse] at hnames
  refine hnobody fun a ha => ?_
  have hauthority : home.authority = some a := ha
  simpa [Except.map, hauthority] using hnames

/-- A user in the address of the server goes out before the token. -/
theorem user_before_token :
    Settings.read (entrusted "http://alice:pw@[::1]/") =
        .ok (entrustedSettings "http://alice:pw@[::1]/") ∧
      ((traffic deaf (entrustedSettings "http://alice:pw@[::1]/") ⟨"run", ⟨0, 0⟩⟩ ()).head?.map
        authorizationNoted) =
        some [Utf8.encodeString "Basic YWxpY2U6cHc=", Utf8.encodeString "Bearer token"] := by
  refine ⟨?_, ?_⟩ <;> decide +kernel

end Harness

end RestConformance
