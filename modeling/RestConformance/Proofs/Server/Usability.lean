import RestConformance.Proofs.Server.Authorization
import RestConformance.Proofs.Server.Secrecy

/-!
# Usable settings

Settings that are read need not be usable. Whether a request can be sent is looked at when it is
prepared, and the reader of settings does not look at the same things: it takes hosts that cannot be
read once they are written, hosts with characters that no request can hold, and tokens with
characters that no header can hold.

## Main definitions

* `Http.Failure.isEarly` – a failure of a request of which nothing was sent;
* `Settings.HasSendableToken` – the token of settings, if there is one, is a text for a header;
* `Harness.Attempted` – what comes of a request for an address that can be read.

## Main results

* `Harness.execute_contacts` – when a request reaches the transport, and why not;
* `Harness.token_shuts_out` – settings under which none does.
-/

namespace RestConformance

variable {σ : Type}

namespace Http

/-- Whether a failure tells that an address could not be read, that there were no credentials, or
that a header could not be made. -/
def Failure.isEarly : Failure → Bool
  | .invalidUrl _ | .credentials _ => true
  | .other text => text == "builder error"
  | _ => false

variable {request : WireRequest} {exchange : Exchange} {failure : Failure}

/-- Sentences about an address end in a bracket. -/
theorem isEarly_aboutUrl (sentence : String) (url : Url) :
    (Failure.other (aboutUrl sentence url)).isEarly = false := by
  rw [Failure.isEarly, beq_eq_false_iff_ne]
  intro heq
  have hlast := congrArg (fun text : String => text.toList.getLast?) heq
  simp [aboutUrl, List.getLast?_cons] at hlast

theorem nextStep_isEarly (h : nextStep request exchange = .failed failure) :
    failure.isEarly = false := by
  cases exchange with
  | unreachable reason =>
    obtain rfl := NextStep.failed.inj h
    unfold connectFailure
    dsimp only
    split
    · rfl
    · split <;> rfl
  | silent =>
    obtain rfl := NextStep.failed.inj h
    rfl
  | dropped =>
    obtain rfl := NextStep.failed.inj h
    exact isEarly_aboutUrl _ _
  | answered response =>
    unfold nextStep at h
    dsimp only at h
    split at h <;> cases h

/-- Failures that come up once something was sent. -/
def Late (found : Except Failure (Url × WireResponse)) : Prop :=
  ∀ failure, found = .error failure → failure.isEarly = false

theorem late_error (h : failure.isEarly = false) : Late (.error failure) := by
  rintro _ ⟨⟩
  exact h

theorem late_ok (found : Url × WireResponse) : Late (.ok found) := by
  rintro _ ⟨⟩

/-- A request that was sent does not fail like one that was not, nor do its redirections. -/
theorem follow_late (send : Transport (StateM σ)) (left : Nat) (request : WireRequest) :
    Ensures (fun _ => True) (follow send left request) fun found _ => Late found := by
  induction left generalizing request with
  | zero =>
    rw [follow]
    refine .bind (R := fun _ _ => True) (fun _ _ => trivial) fun exchange => ?_
    cases hstep : nextStep request exchange with
    | failed failure => exact .pure fun _ _ => late_error (nextStep_isEarly hstep)
    | final response => exact .pure fun _ _ => late_ok _
    | redirected next => exact .pure fun _ _ => late_error (isEarly_aboutUrl _ _)
  | succ left ih =>
    rw [follow]
    refine .bind (R := fun _ _ => True) (fun _ _ => trivial) fun exchange => ?_
    cases hstep : nextStep request exchange with
    | failed failure => exact .pure fun _ _ => late_error (nextStep_isEarly hstep)
    | final response => exact .pure fun _ _ => late_ok _
    | redirected next =>
      dsimp only
      split
      · exact ih next
      · exact .pure fun _ _ => late_error (isEarly_aboutUrl _ _)

theorem captureOf_isEarly {url : Url} {response : WireResponse}
    (h : captureOf url response = .error failure) : failure.isEarly = false := by
  unfold captureOf at h
  split at h
  · cases h
  · split at h <;> cases h
    rfl
  · split at h <;> cases h
    rfl

/-- Whoever is named in an address is named in a text for a header. -/
theorem takeUser_valid (url : Url) : (takeUser url).2.all (·.all isHeaderByte) = true := by
  rcases takeUser_cases url with hnobody | ⟨username, password, htold⟩
  · rw [hnobody]
    rfl
  · simp [htold, basicAuthorization_valid]

/-- An address that is not too long, on a host with characters that a request can hold. -/
def Fits (host : Url.Host) (url : Url) : Prop :=
  url.write.length ≤ longestUrl ∧ host.write.any isUnsendable = false

instance (host : Url.Host) (url : Url) : Decidable (Fits host url) :=
  inferInstanceAs (Decidable (_ ∧ _))

theorem isSendable_iff {url : Url} {host : Url.Host} (hhttp : url.scheme.isHttp = true)
    (hhost : url.host? = some host) : isSendable url = true ↔ Fits host url := by
  simp [isSendable, Fits, hhttp, hhost]

end Http

namespace Settings

variable {settings : Settings}

/-- The token, if there is one, is a text for a header. -/
def HasSendableToken (settings : Settings) : Prop :=
  ∀ token, settings.bearerToken = some token → IsHeaderText token

theorem authorizationOf_valid_iff (settings : Settings) :
    (Http.authorizationOf settings.credentials).all (·.all Http.isHeaderByte) = true ↔
      settings.HasSendableToken := by
  unfold credentials HasSendableToken
  cases settings.bearerToken with
  | some token =>
    simp only [Http.authorizationOf, List.all_cons, List.all_nil, Bool.and_true,
      Http.bearer_valid_iff, Option.some.injEq, forall_eq']
  | none =>
    cases settings.password with
    | some password => simp [Http.authorizationOf, Http.basicAuthorization_valid]
    | none => simp [Http.authorizationOf]

theorem credentialSource_of_no_file {m : Type → Type} [Monad m]
    (fileContent : String → m (Except FileProblem Bytes))
    (hfile : settings.bearerToken = none → settings.bearerTokenFile = none) :
    settings.credentialSource fileContent = .fixed settings.credentials := by
  unfold credentialSource
  split
  · next path htoken hpath =>
    rw [hfile htoken] at hpath
    cases hpath
  · rfl

end Settings

namespace Harness

variable {settings : Settings} {request : Http.Request}
  {wire : Http.WireRequest} {failure : Http.Failure}

section Client

variable (outside : Surroundings (StateM σ))
  (hfile : settings.bearerToken = none → settings.bearerTokenFile = none)

include hfile

theorem credentials_fixed (P : List Http.Note × σ → Prop) :
    Ensures P (client outside.watched settings).credentials fun answer world =>
      answer = .ok settings.credentials ∧ P world := by
  have hsource : (client outside.watched settings).credentials = .fixed settings.credentials :=
    Settings.credentialSource_of_no_file _ hfile
  rw [hsource]
  exact .pure fun _ hworld => ⟨rfl, hworld⟩

/-- A request that cannot be prepared fails, and nothing is sent. -/
theorem execute_unsent (h : Http.prepare settings.credentials request = .error failure)
    (notes : List Http.Note) :
    Ensures (fun world => world.1 = notes) ((client outside.watched settings).execute request)
      fun answer world => answer = .failed failure ∧ world.1 = notes :=
  Http.Client.execute_of_error (credentials_fixed outside hfile _) h

/-- A request that is prepared is sent first of all, and does not fail then like one that was not
sent. -/
theorem execute_sent (h : Http.prepare settings.credentials request = .ok wire)
    (notes : List Http.Note) :
    Ensures (fun world => world.1 = notes) ((client outside.watched settings).execute request)
      fun answer world => (∃ exchange rest, world.1 = notes ++ .sent wire exchange :: rest) ∧
        ∀ failure, answer = .failed failure → failure.isEarly = false := by
  have hfollow : Ensures (fun world => world.1 = notes)
      (Http.follow (client outside.watched settings).transport Http.redirectionLimit wire)
      fun found world => (∃ exchange rest, world.1 = notes ++ .sent wire exchange :: rest) ∧
        Http.Late found := by
    intro world hworld
    obtain ⟨sent, hsent, hnotes⟩ := Http.follow_appends (outside.transport settings.timeoutMs)
      Http.redirectionLimit wire notes world hworld
    refine ⟨?_, Http.follow_late _ _ _ world trivial⟩
    cases hsent with
    | last _ exchange => exact ⟨exchange, [], hnotes⟩
    | redirected _ _ => exact ⟨_, _, hnotes⟩
  refine Http.Client.execute_of_ok (credentials_fixed outside hfile _) h hfollow
    (fun found entry => log_keeps outside (P := fun later =>
      (∃ exchange rest, later = notes ++ .sent wire exchange :: rest) ∧ Http.Late found) entry)
    ?_ ?_ ?_
  · rintro failure world ⟨hsent, hlate⟩
    refine ⟨hsent, ?_⟩
    rintro _ ⟨⟩
    exact hlate failure rfl
  · rintro url response failure world hcapture ⟨hsent, -⟩
    refine ⟨hsent, ?_⟩
    rintro _ ⟨⟩
    exact Http.captureOf_isEarly hcapture
  · rintro found capture world ⟨hsent, -⟩
    exact ⟨hsent, nofun⟩

/-- What comes of a request for an address on a host, with regard to what is noted before and
after. -/
structure Attempted (settings : Settings) (host : Url.Host) (goal : Url)
    (before after : List Http.Note) (answer : Outcome Http.Failure Capture) : Prop where
  /-- A token that is no text for a header keeps everything back. -/
  token : ¬settings.HasSendableToken → answer = .failed (.other "builder error") ∧ after = before
  /-- So does an address that no request can hold. -/
  address : settings.HasSendableToken → ¬Http.Fits host goal →
    answer = .failed (.other (Http.aboutUrl "builder error" goal)) ∧ after = before
  /-- Nothing else does. -/
  sent : settings.HasSendableToken → Http.Fits host goal →
    (∃ wire exchange rest, wire.url = goal ∧ after = before ++ .sent wire exchange :: rest) ∧
      ∀ failure, answer = .failed failure → failure.isEarly = false

theorem execute_attempted {url : Url} {host : Url.Host} (hparse : Url.parse request.url = .ok url)
    (hhttp : url.scheme.isHttp = true) (hhost : url.host? = some host) (notes : List Http.Note) :
    Ensures (fun world => world.1 = notes) ((client outside.watched settings).execute request)
      fun answer world =>
        Attempted settings host (Http.addressed settings.credentials url) notes world.1 answer := by
  intro world hworld
  have hvalid := settings.authorizationOf_valid_iff
  have hsendable : Http.isSendable (Http.addressed settings.credentials url) = true ↔
      Http.Fits host (Http.addressed settings.credentials url) :=
    Http.isSendable_iff (by rwa [Http.scheme_addressed]) (by rwa [Http.host?_addressed])
  have hprepare := Http.prepare_of_parse settings.credentials hparse
    (Option.isSome_of_eq_some hhost)
  dsimp only at hprepare
  rw [List.all_append, Http.takeUser_valid, Bool.true_and] at hprepare
  refine ⟨fun htoken => ?_, fun htoken hlarge => ?_, fun htoken hfits => ?_⟩
  · rw [if_neg (mt hvalid.1 htoken)] at hprepare
    exact execute_unsent outside hfile hprepare notes world hworld
  · rw [if_pos (hvalid.2 htoken), if_neg (mt hsendable.1 hlarge)] at hprepare
    exact execute_unsent outside hfile hprepare notes world hworld
  · rw [if_pos (hvalid.2 htoken), if_pos (hsendable.2 hfits)] at hprepare
    obtain ⟨⟨exchange, rest, hsent⟩, hlate⟩ :=
      execute_sent outside hfile hprepare notes world hworld
    exact ⟨⟨_, exchange, rest, rfl, hsent⟩, hlate⟩

end Client

/-- Under settings that were read, a request is sent just if the host of the server can be read once
it is written, the token is a text for a header, and the address fits. Otherwise it fails with
nothing sent. The requests of cases and those of fixtures are all of this kind. -/
theorem execute_contacts {lookup : String → Option String}
    (h : Settings.read lookup = .ok settings)
    (hfile : settings.bearerToken = none → settings.bearerTokenFile = none)
    (outside : Surroundings (StateM σ)) (method : Http.Method) (path : String)
    (body : Option Bytes) (notes : List Http.Note) (s : σ) :
    ∃ home host, Url.parse (Settings.baseValue lookup) = .ok home ∧ home.host? = some host ∧
      let request : Http.Request := ⟨method, Http.resolvePath settings.baseUrl path, body⟩
      let result := ((client outside.watched settings).execute request).run (notes, s)
      if host.IsReadable then
        ∃ url, Url.parse request.url = .ok url ∧
          Attempted settings host (Http.addressed settings.credentials url) notes result.2.1
            result.1
      else
        result.1 = .failed (.invalidUrl (Url.Error.invalidDomain.message ++ ": " ++ request.url)) ∧
          result.2.1 = notes := by
  obtain ⟨home, a, host, hparse, hweb, hbase⟩ := Settings.read_baseUrl h
  obtain ⟨rest, -, hresolved⟩ := Settings.parse_resolvePath hweb hbase path
  refine ⟨home, host, hparse, hweb.host?_eq, ?_⟩
  intro request result
  by_cases hreadable : host.IsReadable
  · rw [if_pos hreadable] at hresolved ⊢
    have hrequest : Url.parse request.url = .ok (Url.onServer home.scheme a rest) := hresolved
    exact ⟨_, hrequest, execute_attempted outside hfile hrequest hweb.http
      hweb.authority.host_eq notes (notes, s) rfl⟩
  · rw [if_neg hreadable] at hresolved ⊢
    have hprepare : Http.prepare settings.credentials request =
        .error (.invalidUrl (Url.Error.invalidDomain.message ++ ": " ++ request.url)) := by
      simp [Http.prepare, Http.authenticatedUrl, request, hresolved, bind, Except.bind]
    exact execute_unsent outside hfile hprepare notes (notes, s) rfl

/-- With a token of plain characters, a path on the local machine is asked for. -/
theorem execute_contacts_by_token :
    Settings.read (entrusted "http://[::1]/") = .ok (entrustedSettings "http://[::1]/") ∧
      ∃ wire exchange rest, wire.url.text = "http://[::1]/version" ∧
        (((client deaf.watched (entrustedSettings "http://[::1]/")).execute
          ⟨.get, "http://[::1]/version", none⟩).run ([], ())).2.1 =
          .sent wire exchange :: rest := by
  have hread : Settings.read (entrusted "http://[::1]/") =
      .ok (entrustedSettings "http://[::1]/") := by
    decide +kernel
  refine ⟨hread, ?_⟩
  obtain ⟨home, host, hparse, hhost, hresult⟩ :=
    execute_contacts hread nofun deaf .get "version" none [] ()
  have hhome : (Url.parse (Settings.baseValue (entrusted "http://[::1]/"))).map Url.host? =
      .ok (some Settings.loopback) := by
    decide +kernel
  rw [hparse, Except.map, hhost] at hhome
  obtain rfl : host = Settings.loopback := Option.some.inj (Except.ok.inj hhome)
  have hpath : Http.resolvePath (entrustedSettings "http://[::1]/").baseUrl "version" =
      "http://[::1]/version" := by
    decide +kernel
  have hgoal : (Url.parse "http://[::1]/version").map
      (Http.addressed (entrustedSettings "http://[::1]/").credentials) =
        .ok ⟨.http, some ⟨[], none, some Settings.loopback, none⟩, .segments ["version".toList],
          none, none⟩ := by
    decide +kernel
  have htoken : (entrustedSettings "http://[::1]/").HasSendableToken := by
    rintro _ ⟨⟩
    unfold IsHeaderText
    decide +kernel
  have hreadable : Settings.loopback.IsReadable := trivial
  dsimp only at hresult
  rw [if_pos hreadable, hpath] at hresult
  obtain ⟨url, hurl, hattempted⟩ := hresult
  rw [hurl] at hgoal
  rw [show Http.addressed _ url = _ from Except.ok.inj hgoal] at hattempted
  obtain ⟨⟨wire, exchange, rest, hwire, hsent⟩, -⟩ := hattempted.sent htoken (by decide +kernel)
  refine ⟨wire, exchange, rest, ?_, hsent⟩
  rw [hwire]
  decide +kernel

/-- Variables that give a token which ends in a newline, as it may come from a file. -/
def pasted (name : String) : Option String :=
  if name = Settings.Variable.bearerToken.name then some "token\n"
  else Settings.named "http://[::1]/" name

/-- The settings that these variables give. -/
def pastedSettings : Settings :=
  { entrustedSettings "http://[::1]/" with bearerToken := some "token\n" }

/-- With a newline behind the token, settings are read, and no request goes out. A token file with
this very text has a token without the newline. -/
theorem token_shuts_out :
    Settings.read pasted = .ok pastedSettings ∧
      ((client deaf.watched pastedSettings).execute
        ⟨.get, "http://[::1]/version", none⟩).run ([], ()) =
          (.failed (.other "builder error"), [], ()) ∧
      Credentials.ofTokenFile "token" (.ok (Utf8.encodeString "token\n")) =
        .ok (.bearer "token") := by
  have hprepare : Http.prepare pastedSettings.credentials ⟨.get, "http://[::1]/version", none⟩ =
      .error (.other "builder error") := by
    decide +kernel
  have hfile : pastedSettings.bearerToken = none → pastedSettings.bearerTokenFile = none := nofun
  refine ⟨by decide +kernel, ?_, by decide +kernel⟩
  have hunsent := execute_unsent deaf hfile hprepare [] ([], ()) rfl
  exact Prod.ext hunsent.1 (Prod.ext hunsent.2 rfl)

end Harness

end RestConformance
