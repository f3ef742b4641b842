import RestConformance.Proofs.Notes
import RestConformance.Proofs.Server.BaseAddress
import RestConformance.Proofs.Server.Coupling
import RestConformance.Proofs.Text.Utf8

/-!
# Secrets of settings

Passwords and tokens go nowhere but into one header. Two runs whose settings differ in a password,
or in a token, have the same report, tell the same and send the same requests, apart from the values
of that header. What they are run against must not look at it, either.

## Main definitions

* `Settings.SameButSecret settings settings'` – the settings differ in a secret at most;
* `Http.WireRequest.masked` – a request without the values of that header;
* `BlindCoupled S left right` – the surroundings are coupled and do not look at the header;
* `Harness.events` – what a run tells and sends.

## Main results

* `Http.prepare_alike` – what a client does with a request depends on the secret in the header only;
* `BlindCoupled.harness` – clients that differ in a secret give the same answers;
* `Harness.secret_not_told` – a run gives no secret away.
-/

namespace RestConformance

variable {σ τ : Type}

/-! ### Characters of a header -/

theorem Base64.digit_printable (n : Nat) :
    0x20 ≤ (digit n).toNat ∧ (digit n).toNat < 0x7F := by
  have hdigits : ∀ k < 64, 0x20 ≤ (alphabet.getD k '=').toNat ∧
      (alphabet.getD k '=').toNat < 0x7F := by
    decide +kernel
  exact hdigits _ (Nat.mod_lt n (by decide))

theorem Base64.encode_printable (bytes : Bytes) :
    ∀ c ∈ encode bytes, 0x20 ≤ c.toNat ∧ c.toNat < 0x7F := by
  induction bytes using encode.induct with
  | case1 => nofun
  | case2 a => simp [encode, digit_printable]
  | case3 a b => simp [encode, digit_printable]
  | case4 a b c rest ih =>
    intro d hd
    rcases List.mem_append.1 hd with hd | hd
    · simp only [List.mem_cons, List.not_mem_nil, or_false] at hd
      rcases hd with rfl | rfl | rfl | rfl <;> exact digit_printable _
    · exact ih d hd

namespace Http

theorem isHeaderByte_of_printable {t : Text} (h : ∀ c ∈ t, 0x20 ≤ c.toNat ∧ c.toNat < 0x7F) :
    (Utf8.encode t).all isHeaderByte = true := by
  rw [List.all_eq_true]
  intro b hb
  obtain ⟨c, hc, hb⟩ := List.mem_flatMap.1 hb
  obtain ⟨hlow, hhigh⟩ := h c hc
  rw [Utf8.encodeChar_one (by omega), List.mem_singleton] at hb
  have hvalue : b.toNat = c.toNat := by
    rw [hb, Utf8.toNat_ofNat (by omega)]
  simp only [isHeaderByte, hvalue, Bool.or_eq_true, Bool.and_eq_true, decide_eq_true_eq, bne_iff_ne]
  exact .inl ⟨hlow, by omega⟩

/-- A user name and a password can always be sent. -/
theorem basicAuthorization_valid (username password : Bytes) :
    (basicAuthorization username password).all isHeaderByte = true := by
  have hword : ∀ c ∈ "Basic ".toList, 0x20 ≤ c.toNat ∧ c.toNat < 0x7F := by
    decide
  refine isHeaderByte_of_printable fun c hc => ?_
  rcases List.mem_append.1 hc with hc | hc
  · exact hword c hc
  · exact Base64.encode_printable _ c hc

/-! ### Requests -/

/-- The request, without what it says of its sender. -/
def WireRequest.masked (request : WireRequest) : WireRequest :=
  { request with authorization := request.authorization.map fun _ => [] }

/-- Requests that differ only in their sender are sent on alike. -/
theorem redirection?_masked (request : WireRequest) (response : WireResponse) :
    redirection? request.masked response =
      (redirection? request response).map WireRequest.masked := by
  unfold redirection?
  dsimp only [WireRequest.masked]
  split
  · split
    · next url _ =>
      by_cases hget : becomesGet response.status request.method = true <;>
        by_cases hserver : sameServer request.url url = true <;>
          simp [hget, hserver, WireRequest.masked]
    · rfl
  · rfl

theorem unseen_masked : Unseen fun request request' => request.masked = request'.masked where
  url h := congrArg (·.url) h
  redirection {request request'} h response := by
    have hmap := redirection?_masked request response
    rw [h, redirection?_masked] at hmap
    cases hnext : redirection? request response <;>
      cases hnext' : redirection? request' response <;>
      rw [hnext, hnext'] at hmap
    · exact .none
    · cases hmap
    · cases hmap
    · exact .some (Option.some.inj hmap.symm)

end Http

/-- The credentials ask for the same query, and for as many values of the header, all of which can
be sent or not for both. -/
structure Credentials.Alike (credentials credentials' : Credentials) : Prop where
  query : credentials.queryParameter? = credentials'.queryParameter?
  count : (Http.authorizationOf credentials).length = (Http.authorizationOf credentials').length
  valid : (Http.authorizationOf credentials).all (·.all Http.isHeaderByte) =
    (Http.authorizationOf credentials').all (·.all Http.isHeaderByte)

theorem Credentials.Alike.refl (credentials : Credentials) : credentials.Alike credentials :=
  ⟨rfl, rfl, rfl⟩

/-- Passwords lead to values that can be sent. -/
theorem Credentials.alike_basic (username password password' : String) :
    (Credentials.basic username password).Alike (.basic username password') where
  query := rfl
  count := rfl
  valid := by
    simp only [Http.authorizationOf, List.all_cons, Http.basicAuthorization_valid]

/-- A token is a text that may occur in a header. -/
def IsHeaderText (token : String) : Prop :=
  (Utf8.encodeString token).all Http.isHeaderByte = true

/-- What is sent of a token can be sent just if the token is a text for a header. -/
theorem Http.bearer_valid_iff {token : String} :
    (Utf8.encodeString ("Bearer " ++ token)).all isHeaderByte = true ↔ IsHeaderText token := by
  have hword : (Utf8.encode "Bearer ".toList).all isHeaderByte = true := by
    decide +kernel
  have hbytes : Utf8.encodeString ("Bearer " ++ token) =
      Utf8.encode "Bearer ".toList ++ Utf8.encodeString token := by
    unfold Utf8.encodeString Utf8.encode
    rw [String.toList_append, List.flatMap_append]
  rw [hbytes, List.all_append, hword, Bool.true_and, IsHeaderText]

/-- Tokens lead to values that can be sent if they are texts for a header. -/
theorem Credentials.alike_bearer {token token' : String} (h : IsHeaderText token)
    (h' : IsHeaderText token') : (Credentials.bearer token).Alike (.bearer token') where
  query := rfl
  count := rfl
  valid := by
    simp only [Http.authorizationOf, List.all_cons, Http.bearer_valid_iff.2 h,
      Http.bearer_valid_iff.2 h']

/-- What is prepared for credentials that are alike is the same, apart from the sender. -/
theorem Http.prepare_alike {credentials credentials' : Credentials}
    (h : credentials.Alike credentials') (request : Http.Request) :
    ExceptRel (fun wire wire' => wire.masked = wire'.masked) (prepare credentials request)
      (prepare credentials' request) := by
  have hurl : authenticatedUrl request.url credentials =
      authenticatedUrl request.url credentials' := by
    unfold authenticatedUrl
    rw [h.query]
  unfold prepare
  rw [hurl]
  cases authenticatedUrl request.url credentials' with
  | error failure => exact .error failure
  | ok full =>
    -- Both ask for as many values, and the values of both can be sent or those of neither.
    have hvalid : ((takeUser full).2 ++ authorizationOf credentials).all (·.all isHeaderByte) =
        ((takeUser full).2 ++ authorizationOf credentials').all (·.all isHeaderByte) := by
      rw [List.all_append, List.all_append, h.valid]
    have hmasked : ((takeUser full).2 ++ authorizationOf credentials).map (fun _ => ([] : Bytes)) =
        ((takeUser full).2 ++ authorizationOf credentials').map fun _ => [] := by
      rw [List.map_const', List.map_const', List.length_append, List.length_append, h.count]
    dsimp only [bind, Except.bind]
    by_cases hhost : full.host?.isNone = true
    · rw [if_pos hhost, if_pos hhost]
      exact .error _
    rw [if_neg hhost, if_neg hhost, hvalid]
    dsimp only [pure, Except.pure]
    split
    · exact .error _
    · split
      · exact .error _
      · refine .ok ?_
        unfold WireRequest.masked
        rw [hmasked]

/-! ### Settings -/

namespace Settings

/-- The settings are the same, except that both have a password or both have a token, and these may
differ. Tokens are texts for a header. -/
inductive SameButSecret (settings : Settings) : Settings → Prop where
  | password {password : String} (password' : String) (given : settings.password = some password) :
    SameButSecret settings { settings with password := some password' }
  | token {token token' : String} (given : settings.bearerToken = some token)
    (valid : IsHeaderText token) (valid' : IsHeaderText token') :
    SameButSecret settings { settings with bearerToken := some token' }

namespace SameButSecret

variable {settings settings' : Settings} (h : settings.SameButSecret settings')

include h

/-- Apart from the secrets the settings are the same. -/
theorem rest_eq : settings.baseUrl = settings'.baseUrl ∧
    settings.bearerTokenFile = settings'.bearerTokenFile ∧
    settings.timeoutMs = settings'.timeoutMs ∧ settings.suiteName = settings'.suiteName := by
  cases h <;> exact ⟨rfl, rfl, rfl, rfl⟩

theorem bearerToken_eq_none : settings.bearerToken = none ↔ settings'.bearerToken = none := by
  cases h with
  | password => exact .rfl
  | token given => simp [given]

theorem credentials_alike : settings.credentials.Alike settings'.credentials := by
  cases h with
  | @password password password' given =>
    unfold credentials
    dsimp only
    rw [given]
    cases settings.bearerToken with
    | some token => exact .refl _
    | none => exact Credentials.alike_basic settings.user password password'
  | token given valid valid' =>
    unfold credentials
    dsimp only
    rw [given]
    exact Credentials.alike_bearer valid valid'

end SameButSecret

end Settings

/-! ### Surroundings that do not look at the sender -/

/-- From states related by `S`, both surroundings give the same answers, to requests that differ
only in their sender, too. Their clocks may show other times. -/
structure BlindCoupled (S : σ → τ → Prop) (left : Surroundings (StateM σ))
    (right : Surroundings (StateM τ)) : Prop where
  fileContent : ∀ path, Coupled S Eq (left.fileContent path) (right.fileContent path)
  transport : ∀ timeout request request', request.masked = request'.masked →
    Coupled S Eq (left.transport timeout request) (right.transport timeout request')
  log : ∀ entry, Coupled S Eq (left.log entry) (right.log entry)
  clock : Coupled S (fun _ _ => True) left.clock right.clock

/-- Surroundings whose transport does not look at the sender go with themselves. -/
theorem blindCoupled_self {outside : Surroundings (StateM σ)}
    (h : ∀ timeout request request', request.masked = request'.masked →
      outside.transport timeout request = outside.transport timeout request') :
    BlindCoupled Eq outside outside where
  fileContent _ := .refl _
  transport timeout request request' hmasked := h timeout request request' hmasked ▸ .refl _
  log _ := .refl _
  clock := (Coupled.refl _).mono fun _ _ _ => trivial

namespace BlindCoupled

variable {S : σ → τ → Prop} {left : Surroundings (StateM σ)} {right : Surroundings (StateM τ)}
  {settings settings' : Settings} (h : BlindCoupled S left right)
  (hsecret : settings.SameButSecret settings')

include h

section Settings

include hsecret

theorem credentialSource :
    Coupled S (ExceptRel Credentials.Alike) (settings.credentialSource left.fileContent)
      (settings'.credentialSource right.fileContent) := by
  have hfixed : Coupled S (ExceptRel (ε := CredentialError) Credentials.Alike)
      (pure (.ok settings.credentials)) (pure (.ok settings'.credentials)) :=
    .pure (.ok hsecret.credentials_alike)
  obtain ⟨-, hfile, -, -⟩ := hsecret.rest_eq
  unfold Settings.credentialSource
  rw [← hfile]
  -- A token comes before a file of tokens, and both settings have one or neither has.
  cases htoken : settings.bearerToken with
  | some token =>
    cases htoken' : settings'.bearerToken with
    | none =>
      rw [hsecret.bearerToken_eq_none.2 htoken'] at htoken
      cases htoken
    | some token' => exact hfixed
  | none =>
    rw [hsecret.bearerToken_eq_none.1 htoken]
    cases settings.bearerTokenFile with
    | none => exact hfixed
    | some path =>
      exact (h.fileContent path).bind_eq fun content => .pure (.refl Credentials.Alike.refl _)

/-- Clients that differ in a secret give the same answers. -/
theorem harness : HarnessCoupled S left right settings settings' where
  execute := by
    refine Http.Client.execute_coupled Http.unseen_masked ?_ ?_ h.log
    · refine (h.credentialSource hsecret).mono fun answer answer' hanswer => ?_
      cases hanswer with
      | error error => exact .error error
      | ok halike => exact .ok (Http.prepare_alike halike)
    · intro request request' hmasked
      obtain ⟨-, -, htimeout, -⟩ := hsecret.rest_eq
      show Coupled S Eq (left.transport settings.timeoutMs request)
        (right.transport settings'.timeoutMs request')
      rw [← htimeout]
      exact h.transport _ request request' hmasked
  log := h.log
  baseUrl := hsecret.rest_eq.1

end Settings

end BlindCoupled

namespace Harness

/-- What somebody sees of a run. -/
inductive Event where
  | told (entry : LogEntry)
  | sent (request : Http.WireRequest) (exchange : Http.Exchange)

/-- The event, without what it says of the sender of a request. -/
def Event.masked : Event → Event
  | .told entry => .told entry
  | .sent request exchange => .sent request.masked exchange

end Harness

/-- The outside, with a note of each thing that is told and of each request that is sent. -/
def Surroundings.observed (outside : Surroundings (StateM σ)) :
    Surroundings (Noting Harness.Event σ) where
  fileContent path := Noting.silent (outside.fileContent path)
  transport timeout request :=
    Noting.noted (fun _ exchange => .sent request exchange) (outside.transport timeout request)
  log entry := Noting.noted (fun _ _ => .told entry) (outside.log entry)
  clock := Noting.silent outside.clock

namespace Harness

/-- What a run tells and what it sends, in order. -/
def events (outside : Surroundings (StateM σ)) (settings : Settings) (stamp : RunStamp) (s : σ) :
    List Event :=
  ((run outside.observed settings stamp).run ([], s)).2.1

theorem observed_coupled (outside : Surroundings (StateM σ)) :
    OutsideCoupled (fun world s => world.2 = s) outside.observed outside where
  fileContent _ := Noting.silent_coupled _
  transport _ _ := Noting.noted_coupled _ _
  log _ := Noting.noted_coupled _ _
  clock := Noting.silent_coupled _

/-- To be observed changes nothing about the report of a run. -/
theorem run_observed (outside : Surroundings (StateM σ)) (settings : Settings) (stamp : RunStamp)
    (s : σ) :
    ((run outside.observed settings stamp).run ([], s)).1 =
      ((run outside settings stamp).run s).1 :=
  ((observed_coupled outside).run settings stamp ([], s) s rfl).1

/-- Observers of both surroundings see the same, but for the senders of requests. -/
theorem observed_blind {S : σ → τ → Prop} {left : Surroundings (StateM σ)}
    {right : Surroundings (StateM τ)} (h : BlindCoupled S left right) :
    BlindCoupled (Noting.Agree Event.masked S) left.observed right.observed where
  fileContent path := Noting.silent_agree (h.fileContent path)
  transport timeout request request' hmasked :=
    Noting.noted_agree (h.transport timeout request request' hmasked) fun exchange =>
      congrArg (Event.sent · exchange) hmasked
  log entry := Noting.noted_agree (h.log entry) fun _ => rfl
  clock := Noting.silent_agree h.clock

/-- Two runs whose settings differ in a password or a token only, against surroundings that do not
look at the senders of requests, have the same report and exit code, tell the same and send the same
requests. What differs is the time, the identifier of the run, and the values of the header that
tells who sends a request. -/
theorem secret_not_told {S : σ → τ → Prop} {left : Surroundings (StateM σ)}
    {right : Surroundings (StateM τ)} (h : BlindCoupled S left right)
    {settings settings' : Settings} (hsecret : settings.SameButSecret settings')
    (stamp stamp' : RunStamp) {s : σ} {t : τ} (hstates : S s t) :
    ((run left settings stamp).run s).1.mapValue RunReport.timeless =
        ((run right settings' stamp').run t).1.mapValue RunReport.timeless ∧
      ((run left settings stamp).run s).1.mapValue RunReport.exitCode =
        ((run right settings' stamp').run t).1.mapValue RunReport.exitCode ∧
      (events left settings stamp s).map Event.masked =
        (events right settings' stamp' t).map Event.masked := by
  have hobserved := observed_blind h
  obtain ⟨-, -, -, hsuite⟩ := hsecret.rest_eq
  obtain ⟨hreports, -, hevents⟩ := (hobserved.harness hsecret).run_timeless hobserved.clock
    hsuite stamp stamp' ([], s) ([], t) ⟨hstates, rfl⟩
  rw [run_observed, run_observed] at hreports
  have hcodes := hreports.mono fun report report' hreport =>
    show report.exitCode = report'.exitCode by
      rw [← report.exitCode_timeless, hreport, report'.exitCode_timeless]
  exact ⟨hreports.mapValue_eq, hcodes.mapValue_eq, hevents⟩

/-- An outside whose server never answers, and whose clock goes on by `pace` each time. -/
def ticking (pace : UInt64) : Surroundings (StateM UInt64) where
  fileContent _ := pure (.error .missing)
  transport _ _ := pure .dropped
  log _ := pure ()
  clock := modifyGet fun now => (now, now + pace)

/-- Variables that name a server, and give a password. -/
def guarded (password : String) (name : String) : Option String :=
  if name = Settings.Variable.password.name then some password
  else Settings.named "http://[::1]/" name

/-- The settings that these variables give. -/
def guardedSettings (password : String) : Settings :=
  { Settings.standard with baseUrl := "http://[::1]/", password := some password }

/-- The values of the header of the requests among some events. -/
def authorizationsSent (events : List Event) : List (List Bytes) :=
  events.filterMap fun
    | .told _ => none
    | .sent request _ => some request.authorization

/-- Two runs with passwords of their own. Requests carry the password, and nothing else tells the
runs apart. -/
theorem secret_not_told_of_passwords :
    Settings.read (guarded "swordfish") = .ok (guardedSettings "swordfish") ∧
      Settings.read (guarded "mellon") = .ok (guardedSettings "mellon") ∧
      (authorizationsSent (events (ticking 1) (guardedSettings "swordfish") ⟨"one", ⟨0, 0⟩⟩
        0)).head? = some [Utf8.encodeString "Basic cmVzdHByb2JlOnN3b3JkZmlzaA=="] ∧
      (events (ticking 1) (guardedSettings "swordfish") ⟨"one", ⟨0, 0⟩⟩ 0).map Event.masked =
        (events (ticking 7) (guardedSettings "mellon") ⟨"two", ⟨5, 0⟩⟩ 3).map Event.masked := by
  have hblind : BlindCoupled (fun _ _ => True) (ticking 1) (ticking 7) :=
    { fileContent := fun _ => .pure rfl
      transport := fun _ _ _ _ => .pure rfl
      log := fun _ => .pure rfl
      clock := fun _ _ _ => ⟨trivial, trivial⟩ }
  have hsecret : (guardedSettings "swordfish").SameButSecret (guardedSettings "mellon") :=
    .password "mellon" rfl
  refine ⟨by decide +kernel, by decide +kernel, by decide +kernel, ?_⟩
  exact (secret_not_told hblind hsecret _ _ trivial).2.2

end Harness

end RestConformance
