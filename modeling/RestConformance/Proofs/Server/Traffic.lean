import RestConformance.Proofs.Notes
import RestConformance.Proofs.Server.Coupling

/-!
# The traffic of a run

What a run reads from files and what it sends, and which requests belong together: a call of the
client asks for credentials, sends a request if it gets some, and follows its redirections.

## Main definitions

* `Http.Note` – a file that was read, or a request that was sent;
* `Http.IsExchange request notes` – the request and its redirections, one after another;
* `Settings.Asked settings notes answer` – how settings choose credentials;
* `Surroundings.watched` – the outside with a note of each such event;
* `Harness.traffic` – the notes of a run.

## Main results

* `Http.follow_appends` – following a request sends it and its redirections;
* `Settings.credentialSource_appends` – asking for credentials reads a token file or nothing;
* `Harness.run_watched` – to take notes changes nothing else about a run.
-/

namespace RestConformance

variable {σ : Type}

namespace Http

/-- What is noted of the outside. -/
inductive Note where
  | read (path : String) (content : Except FileProblem Bytes)
  | sent (request : WireRequest) (exchange : Exchange)

/-- A request and then, as long as the answers ask for it, its redirections. -/
inductive IsExchange : WireRequest → List Note → Prop where
  /-- The last request. -/
  | last (request : WireRequest) (exchange : Exchange) :
    IsExchange request [.sent request exchange]
  /-- A request whose answer asks for another one. -/
  | redirected {request next : WireRequest} {exchange : Exchange} {rest : List Note} :
    nextStep request exchange = .redirected next → IsExchange next rest →
      IsExchange request (.sent request exchange :: rest)

/-- Following a request sends it and its redirections. -/
theorem follow_appends (transport : WireRequest → StateM σ Exchange) (left : Nat)
    (request : WireRequest) (notes : List Note) :
    Ensures (fun world => world.1 = notes)
      (follow (fun request =>
        Noting.noted (fun _ exchange => Note.sent request exchange) (transport request)) left
        request)
      fun _ world => ∃ rest, IsExchange request rest ∧ world.1 = notes ++ rest := by
  -- The number only bounds how many redirections are followed.
  induction left generalizing request notes with
  | zero =>
    rw [follow]
    refine .bind (Noting.noted_appends _ _ notes) fun exchange => ?_
    cases nextStep request exchange with
    | failed failure => exact .pure fun _ hs => ⟨_, .last request _, hs⟩
    | final response => exact .pure fun _ hs => ⟨_, .last request _, hs⟩
    | redirected next => exact .pure fun _ hs => ⟨_, .last request _, hs⟩
  | succ left ih =>
    rw [follow]
    refine .bind (Noting.noted_appends _ _ notes) fun exchange => ?_
    cases hstep : nextStep request exchange with
    | failed failure => exact .pure fun _ hs => ⟨_, .last request _, hs⟩
    | final response => exact .pure fun _ hs => ⟨_, .last request _, hs⟩
    | redirected next =>
      dsimp only
      split
      · intro world hworld
        obtain ⟨rest, hrest, hnotes⟩ := ih next _ world hworld
        exact ⟨_, .redirected hstep hrest, hnotes.trans (List.append_assoc _ _ _)⟩
      · exact .pure fun _ hs => ⟨_, .last request _, hs⟩

end Http

/-- The outside, with a note of each file that is read and of each request that is sent. -/
def Surroundings.watched (outside : Surroundings (StateM σ)) :
    Surroundings (Noting Http.Note σ) where
  fileContent path := Noting.noted (fun _ content => .read path content) (outside.fileContent path)
  transport timeout request :=
    Noting.noted (fun _ exchange => .sent request exchange) (outside.transport timeout request)
  log entry := Noting.silent (outside.log entry)
  clock := Noting.silent outside.clock

namespace Settings

/-- How settings choose the credentials of a request: a token goes before a token file, that file
before a password, and a password before a user who is only named. The file is read for the
request. -/
inductive Asked (settings : Settings) : List Http.Note → Except CredentialError Credentials →
    Prop where
  | token {token : String} (given : settings.bearerToken = some token) :
    Asked settings [] (.ok (.bearer token))
  | file {path : String} (content : Except FileProblem Bytes)
    (noToken : settings.bearerToken = none) (given : settings.bearerTokenFile = some path) :
    Asked settings [.read path content] (Credentials.ofTokenFile path content)
  | password {password : String} (noToken : settings.bearerToken = none)
    (noFile : settings.bearerTokenFile = none) (given : settings.password = some password) :
    Asked settings [] (.ok (.basic settings.user password))
  | user (noToken : settings.bearerToken = none) (noFile : settings.bearerTokenFile = none)
    (noPassword : settings.password = none) :
    Asked settings [] (.ok (.pseudoUser settings.user))

/-- Asking for credentials reads the token file if there is one and no token, and nothing if not. -/
theorem credentialSource_appends (settings : Settings) (outside : Surroundings (StateM σ))
    (notes : List Http.Note) :
    Ensures (fun world => world.1 = notes)
      (settings.credentialSource outside.watched.fileContent)
      fun answer world => ∃ asked, Asked settings asked answer ∧ world.1 = notes ++ asked := by
  have hfixed : ∀ credentials, Asked settings [] (.ok credentials) →
      Ensures (fun world : List Http.Note × σ => world.1 = notes)
        (CredentialSource.fixed credentials)
        fun answer world => ∃ asked, Asked settings asked answer ∧ world.1 = notes ++ asked := by
    intro credentials hasked
    exact .pure fun _ hs => ⟨[], hasked, hs.trans (List.append_nil _).symm⟩
  unfold credentialSource
  split
  · next path htoken hfile =>
    refine .bind (Noting.noted_appends _ _ notes) fun content => ?_
    exact .pure fun _ hs => ⟨_, .file content htoken hfile, hs⟩
  · next hother =>
    refine hfixed _ ?_
    unfold credentials
    cases htoken : settings.bearerToken with
    | some token => exact .token htoken
    | none =>
      cases hfile : settings.bearerTokenFile with
      | some path => exact absurd hfile (hother path htoken)
      | none =>
        cases hpassword : settings.password with
        | some password => exact .password htoken hfile hpassword
        | none => exact .user htoken hfile hpassword

end Settings

namespace Harness

/-- The notes of a run. -/
def traffic (outside : Surroundings (StateM σ)) (settings : Settings) (stamp : RunStamp) (s : σ) :
    List Http.Note :=
  ((run outside.watched settings stamp).run ([], s)).2.1

theorem watched_coupled (outside : Surroundings (StateM σ)) :
    OutsideCoupled (fun world s => world.2 = s) outside.watched outside where
  fileContent _ := Noting.noted_coupled _ _
  transport _ _ := Noting.noted_coupled _ _
  log _ := Noting.silent_coupled _
  clock := Noting.silent_coupled _

/-- A watch changes nothing else about a run. -/
theorem run_watched (outside : Surroundings (StateM σ)) (settings : Settings) (stamp : RunStamp)
    (world : List Http.Note × σ) :
    ((run outside.watched settings stamp).run world).1 =
        ((run outside settings stamp).run world.2).1 ∧
      ((run outside.watched settings stamp).run world).2.2 =
        ((run outside settings stamp).run world.2).2 :=
  (watched_coupled outside).run settings stamp world _ rfl

end Harness

end RestConformance
