import RestConformance.Harness
import RestConformance.Proofs.Except
import RestConformance.Proofs.Suite.Coupling

/-!
# Coupled surroundings

Runs of the same settings in coupled surroundings are coupled: they have the same reports, and what
relates the states of the surroundings relates them still after the run. The clients of two runs may
also send different requests, as long as they cannot tell them apart by the answers.

## Main definitions

* `Http.Unseen W` – a client cannot tell requests apart that are related by `W`;
* `HarnessCoupled S left right settings settings'` – the clients of two runs, their logs and the
  addresses of their servers go together under `S`;
* `OutsideCoupled S left right` – files, transport, log and clock are coupled under `S`.

## Main results

* `Http.Client.execute_coupled` – clients that send unseen requests give the same answers;
* `HarnessCoupled.run_timeless` – runs that go together have the same reports but for the time;
* `OutsideCoupled.run` – runs in coupled surroundings have the same reports.
-/

namespace RestConformance

variable {σ τ : Type} {S : σ → τ → Prop}

namespace Http

/-- A client treats related requests alike: they have the same address, and what a response asks for
instead of them is related again. -/
structure Unseen (W : WireRequest → WireRequest → Prop) : Prop where
  url : ∀ {request request'}, W request request' → request.url = request'.url
  redirection : ∀ {request request'}, W request request' → ∀ response,
    Option.Rel W (redirection? request response) (redirection? request' response)

/-- The client goes on in the same way, with requests related by `W`. -/
inductive NextStep.Alike (W : WireRequest → WireRequest → Prop) : NextStep → NextStep → Prop where
  | failed (failure : Failure) : Alike W (.failed failure) (.failed failure)
  | final (response : WireResponse) : Alike W (.final response) (.final response)
  | redirected {next next' : WireRequest} : W next next' →
    Alike W (.redirected next) (.redirected next')

theorem unseen_eq : Unseen Eq where
  url := congrArg _
  redirection := by
    rintro request _ rfl response
    cases redirection? request response with
    | none => exact .none
    | some next => exact .some rfl

section Unseen

variable {W : WireRequest → WireRequest → Prop} (hW : Unseen W)

include hW

theorem nextStep_alike {request request' : WireRequest} (h : W request request')
    (exchange : Exchange) : (nextStep request exchange).Alike W (nextStep request' exchange) := by
  unfold nextStep
  rw [hW.url h]
  cases exchange with
  | unreachable reason => exact .failed _
  | silent => exact .failed _
  | dropped => exact .failed _
  | answered response =>
    have hnext := hW.redirection h response
    dsimp only
    generalize redirection? request response = next at hnext
    generalize redirection? request' response = next' at hnext
    cases hnext with
    | none => exact .final response
    | some hnext => exact .redirected hnext

/-- Related requests are followed to the same response. -/
theorem follow_coupled {send : Transport (StateM σ)} {send' : Transport (StateM τ)}
    (hsend : ∀ request request', W request request' →
      Coupled S Eq (send request) (send' request')) (left : Nat) :
    ∀ {request request'}, W request request' →
      Coupled S Eq (follow send left request) (follow send' left request') := by
  induction left with
  | zero =>
    intro request request' h
    rw [follow, follow]
    refine (hsend _ _ h).bind_eq fun exchange => ?_
    have hstep := nextStep_alike hW h exchange
    rw [hW.url h]
    generalize nextStep request exchange = step at hstep
    generalize nextStep request' exchange = step' at hstep
    cases hstep <;> exact .pure rfl
  | succ left ih =>
    intro request request' h
    rw [follow, follow]
    refine (hsend _ _ h).bind_eq fun exchange => ?_
    have hstep := nextStep_alike hW h exchange
    rw [hW.url h]
    generalize nextStep request exchange = step at hstep
    generalize nextStep request' exchange = step' at hstep
    -- Both go on in the same way, and redirections keep the requests related.
    cases hstep with
    | failed failure => exact .pure rfl
    | final response => exact .pure rfl
    | redirected hnext =>
      dsimp only
      rw [hW.url hnext]
      split
      · exact ih hnext
      · exact .pure rfl

/-- Clients whose credentials lead to requests that they cannot tell apart give the same answers. -/
theorem Client.execute_coupled {client : Client (StateM σ)} {client' : Client (StateM τ)}
    (hcredentials : Coupled S (ExceptRel fun credentials credentials' =>
      ∀ request, ExceptRel W (prepare credentials request) (prepare credentials' request))
      client.credentials client'.credentials)
    (htransport : ∀ request request', W request request' →
      Coupled S Eq (client.transport request) (client'.transport request'))
    (hlog : ∀ entry, Coupled S Eq (client.log entry) (client'.log entry)) (request : Request) :
    Coupled S Eq (client.execute request) (client'.execute request) := by
  unfold Client.execute
  refine hcredentials.bind fun answer answer' hanswer => ?_
  cases hanswer with
  | error error => exact .pure rfl
  | ok hprepared =>
    dsimp only
    have hwire := hprepared request
    generalize prepare _ request = prepared at hwire
    generalize prepare _ request = prepared' at hwire
    cases hwire with
    | error failure => exact .pure rfl
    | ok hwire =>
      refine (follow_coupled hW htransport redirectionLimit hwire).bind_eq fun found => ?_
      cases found with
      | error failure => exact .pure rfl
      | ok found =>
        dsimp only
        split
        · exact .pure rfl
        · refine (Coupled.forM hlog _).bind_eq fun _ => ?_
          exact (hlog _).bind_eq fun _ => .pure rfl

end Unseen

end Http

/-- From states related by `S`, the clients of two runs give the same answers and the logs take the
same notice, and both runs are against the same server. -/
structure HarnessCoupled (S : σ → τ → Prop) (left : Surroundings (StateM σ))
    (right : Surroundings (StateM τ)) (settings settings' : Settings) : Prop where
  execute : ∀ request, Coupled S Eq ((Harness.client left settings).execute request)
    ((Harness.client right settings').execute request)
  log : ∀ entry, Coupled S Eq (left.log entry) (right.log entry)
  baseUrl : settings.baseUrl = settings'.baseUrl

namespace HarnessCoupled

variable {left : Surroundings (StateM σ)} {right : Surroundings (StateM τ)}
  {settings settings' : Settings} (h : HarnessCoupled S left right settings settings')

include h

theorem ports :
    PortsCoupled S (Harness.runner left settings) (Harness.runner right settings') :=
  SuiteRunner.overRest_coupled h.execute h.log left.clock right.clock .standard h.baseUrl

theorem checkLeftover : Coupled S Eq (Harness.checkLeftover left settings)
    (Harness.checkLeftover right settings') := by
  have hcontains : ∀ name, Coupled S Eq ((Harness.fixtures left settings).contains name)
      ((Harness.fixtures right settings').contains name) := by
    intro name
    dsimp only [Harness.fixtures, restFixtureClient]
    rw [h.baseUrl]
    exact RestFixtureClient.operation_coupled h.execute h.log _ _
  refine (hcontains _).bind_eq fun found => ?_
  exact (Coupled.forM h.log _).bind_eq fun _ => .pure rfl

/-- Runs that go together and are in the same suite have the same reports but for the times and the
identifier of the run, whatever the clocks show. -/
theorem run_timeless (hclock : Coupled S (fun _ _ => True) left.clock right.clock)
    (hsuite : settings.suiteName = settings'.suiteName) (stamp stamp' : RunStamp) :
    Coupled S (Outcome.Rel fun report report' => report.timeless = report'.timeless)
      (Harness.run left settings stamp) (Harness.run right settings' stamp') := by
  have hentry : Harness.runningEntry settings = Harness.runningEntry settings' := by
    unfold Harness.runningEntry
    rw [hsuite, h.baseUrl]
  unfold Harness.run
  rw [hentry, hsuite]
  refine (h.log _).bind_eq fun _ => ?_
  refine (h.ports.run_timeless hclock stamp stamp' _ _).chain_rel fun report report' hreport => ?_
  refine h.checkLeftover.bind_eq fun found => ?_
  cases found with
  | crashed crash => exact .pure (.crashed crash)
  | returned found => exact .pure (.returned hreport)
  | failed failure => exact .pure (.returned hreport)

end HarnessCoupled

/-- From states related by `S`, both surroundings give the same answers. -/
structure OutsideCoupled (S : σ → τ → Prop) (left : Surroundings (StateM σ))
    (right : Surroundings (StateM τ)) : Prop where
  fileContent : ∀ path, Coupled S Eq (left.fileContent path) (right.fileContent path)
  transport : ∀ timeout request,
    Coupled S Eq (left.transport timeout request) (right.transport timeout request)
  log : ∀ entry, Coupled S Eq (left.log entry) (right.log entry)
  clock : Coupled S Eq left.clock right.clock

namespace OutsideCoupled

variable {left : Surroundings (StateM σ)} {right : Surroundings (StateM τ)}
  (h : OutsideCoupled S left right) (settings : Settings)

include h

theorem credentialSource : Coupled S Eq (settings.credentialSource left.fileContent)
    (settings.credentialSource right.fileContent) := by
  unfold Settings.credentialSource
  split
  · exact (h.fileContent _).bind_eq fun _ => .pure rfl
  · exact .pure rfl

theorem harness : HarnessCoupled S left right settings settings where
  execute := by
    refine Http.Client.execute_coupled Http.unseen_eq ?_ ?_ h.log
    · refine (h.credentialSource settings).mono ?_
      rintro answer _ rfl
      exact .refl (fun _ _ => .refl (fun _ => rfl) _) answer
    · rintro request _ rfl
      exact h.transport _ _
  log := h.log
  baseUrl := rfl

/-- Runs in coupled surroundings have the same reports. -/
theorem run (stamp : RunStamp) :
    Coupled S Eq (Harness.run left settings stamp) (Harness.run right settings stamp) := by
  have hharness := h.harness settings
  refine (h.log _).bind_eq fun _ => ?_
  refine (hharness.ports.run h.clock stamp _ _).chain fun report => ?_
  refine hharness.checkLeftover.bind_eq fun found => ?_
  cases found <;> exact .pure rfl

end OutsideCoupled

end RestConformance
