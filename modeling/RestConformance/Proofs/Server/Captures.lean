import RestConformance.Http.Client
import RestConformance.Proofs.Envelopes
import RestConformance.Proofs.Server.BaseAddress
import RestConformance.Proofs.Text.Tolerant

/-!
# Captured responses

Where the body of a response goes. The final response is the one that no redirection replaces. Its
text goes to the channel that its status selects, and only a body of an error that cannot be read
makes a failure of it.

## Main definitions

* `Http.FinalResponse send left request s url response s'` – a request and its redirections end in a
  response;
* `Http.Client.Receives` – that is so for the request that a client prepares.

## Main results

* `Http.follow_eq_ok_iff` – following redirections ends in that response, and in no other;
* `Http.Client.execute_captures` – what becomes of a final response, and what captures look like.
-/

namespace RestConformance

namespace Capture

variable {status : UInt16}

theorem isErrorStatus_iff : isErrorStatus status = true ↔ 400 ≤ status :=
  decide_eq_true_iff

theorem ofBody_of_error (h : 400 ≤ status) (body : String) :
    ofBody status body = ⟨status, "", body⟩ :=
  if_pos (isErrorStatus_iff.2 h)

theorem ofBody_of_success (h : status < 400) (body : String) :
    ofBody status body = ⟨status, body, ""⟩ :=
  if_neg fun herror => absurd (isErrorStatus_iff.1 herror) (UInt16.not_le.2 h)

/-- No signature is found in an empty channel. -/
theorem assertServerError_of_empty {capture : Capture} (h : capture.errorText = "")
    (className code : String) : capture.assertServerError className code ≠ .ok () := by
  have habsent : occursIn ("error-code-class\":\"" ++ className) capture.errorText = false := by
    rw [h, occursIn, Bool.eq_false_iff, Ne, Text.contains_iff]
    intro hfound
    simpa using hfound.length_le
  rw [assertServerError_eq, habsent]
  simp

end Capture

namespace Http

variable {σ : Type} {send : Transport (StateM σ)} {request next : WireRequest} {left : Nat}
  {s s' : σ} {url : Url} {response : WireResponse}

/-! ### Steps of a computation -/

theorem exists_run {α : Type} (x : StateM σ α) (s : σ) : ∃ a s', x.run s = (a, s') :=
  ⟨_, _, rfl⟩

theorem run_bind_of_eq {α β : Type} {x : StateM σ α} {a : α} (h : x.run s = (a, s'))
    (f : α → StateM σ β) : (x >>= f).run s = (f a).run s' := by
  rw [StateT.run_bind, h]
  rfl

/-! ### Final responses -/

/-- A request ends in the response of an address, after at most `left` redirections. -/
inductive FinalResponse (send : Transport (StateM σ)) :
    Nat → WireRequest → σ → Url → WireResponse → σ → Prop where
  /-- The response asks for no other request. -/
  | last {left : Nat} {request : WireRequest} {s s' : σ} {response : WireResponse} :
    (send request).run s = (.answered response, s') → redirection? request response = none →
      FinalResponse send left request s request.url response s'
  /-- The response asks for another request, which ends in the final one. -/
  | redirected {left : Nat} {request next : WireRequest} {s s' s'' : σ} {url : Url}
    {response final : WireResponse} :
    (send request).run s = (.answered response, s') →
      redirection? request response = some next → isSendable next.url = true →
        FinalResponse send left next s' url final s'' →
          FinalResponse send (left + 1) request s url final s''

theorem nextStep_answered (request : WireRequest) (response : WireResponse) :
    nextStep request (.answered response) =
      match redirection? request response with
      | some next => .redirected next
      | none => .final response :=
  rfl

/-- An answer that asks for no other request is the final response. -/
theorem follow_last (hsend : (send request).run s = (.answered response, s'))
    (hlast : redirection? request response = none) :
    (follow send left request).run s = (.ok (request.url, response), s') := by
  cases left <;> rw [follow, run_bind_of_eq hsend, nextStep_answered, hlast] <;> rfl

/-- An answer that asks for another request is followed up with it. -/
theorem follow_redirected (hsend : (send request).run s = (.answered response, s'))
    (hnext : redirection? request response = some next) (hsendable : isSendable next.url = true) :
    (follow send (left + 1) request).run s = (follow send left next).run s' := by
  rw [follow, run_bind_of_eq hsend, nextStep_answered, hnext]
  dsimp only
  rw [if_pos hsendable]

/-- What is followed up to a response was answered. -/
theorem exists_answered (h : (follow send left request).run s = (.ok (url, response), s')) :
    ∃ answer s₁, (send request).run s = (.answered answer, s₁) := by
  obtain ⟨exchange, s₁, hsend⟩ := exists_run (send request) s
  cases exchange with
  | answered answer => exact ⟨answer, s₁, hsend⟩
  | _ => cases left <;> rw [follow, run_bind_of_eq hsend] at h <;> cases h

/-- Following redirections ends in the final response, and in no other. -/
theorem follow_eq_ok_iff : (follow send left request).run s = (.ok (url, response), s') ↔
    FinalResponse send left request s url response s' := by
  constructor
  · intro h
    -- Each redirection uses one of those that are left, and the rest is followed from there.
    induction left generalizing request s with
    | zero =>
      obtain ⟨answer, s₁, hsend⟩ := exists_answered h
      cases hnext : redirection? request answer with
      | none =>
        rw [follow_last hsend hnext] at h
        cases h
        exact .last hsend hnext
      | some next =>
        rw [follow, run_bind_of_eq hsend, nextStep_answered, hnext] at h
        cases h
    | succ left ih =>
      obtain ⟨answer, s₁, hsend⟩ := exists_answered h
      cases hnext : redirection? request answer with
      | none =>
        rw [follow_last hsend hnext] at h
        cases h
        exact .last hsend hnext
      | some next =>
        by_cases hsendable : isSendable next.url = true
        · rw [follow_redirected hsend hnext hsendable] at h
          exact .redirected hsend hnext hsendable (ih h)
        · rw [follow, run_bind_of_eq hsend, nextStep_answered, hnext] at h
          dsimp only at h
          rw [if_neg hsendable] at h
          cases h
  · intro h
    induction h with
    | last hsend hnext => exact follow_last hsend hnext
    | redirected hsend hnext hsendable _ ih => rw [follow_redirected hsend hnext hsendable, ih]

/-! ### Captures -/

theorem captureOf_complete {bytes : Bytes} (h : response.body = .complete bytes) (url : Url) :
    captureOf url response = .ok (.ofBody response.status (Utf8.decodeLossyString bytes)) := by
  rw [captureOf, h]

/-- A body that cannot be read counts as empty unless the status means an error. -/
theorem captureOf_broken (h : response.body = .cutShort ∨ response.body = .timedOut) (url : Url) :
    captureOf url response =
      if 400 ≤ response.status then .error (.unreadableError (bodyText url))
      else .ok ⟨response.status, "", ""⟩ := by
  have hcapture : captureOf url response =
      if Capture.isErrorStatus response.status then .error (.unreadableError (bodyText url))
      else .ok (.ofBody response.status "") := by
    rcases h with h | h <;> rw [captureOf, h]
  rw [hcapture]
  by_cases herror : 400 ≤ response.status
  · rw [if_pos herror, if_pos (Capture.isErrorStatus_iff.2 herror)]
  · rw [if_neg herror, if_neg fun h => herror (Capture.isErrorStatus_iff.1 h),
      Capture.ofBody_of_success (UInt16.not_le.1 herror)]

/-- The channel that the status does not select is empty. -/
theorem captureOf_eq_ok {capture : Capture} (h : captureOf url response = .ok capture) :
    (capture.status < 400 → capture.errorText = "") ∧
      (400 ≤ capture.status → capture.successText = "") := by
  obtain ⟨text, rfl⟩ : ∃ text, capture = .ofBody response.status text := by
    unfold captureOf at h
    split at h
    · exact ⟨_, (Except.ok.inj h).symm⟩
    all_goals
      split at h
      · cases h
      · exact ⟨_, (Except.ok.inj h).symm⟩
  rw [Capture.status_ofBody]
  constructor
  · intro hstatus
    rw [Capture.ofBody_of_success hstatus]
  · intro hstatus
    rw [Capture.ofBody_of_error hstatus]

/-- Only the body of an error makes a failure of a response, if it cannot be read. -/
theorem captureOf_eq_error {failure : Failure} (h : captureOf url response = .error failure) :
    400 ≤ response.status ∧ ∀ bytes, response.body ≠ .complete bytes := by
  have hbody : ∀ bytes, response.body ≠ .complete bytes := by
    intro bytes hbytes
    rw [captureOf_complete hbytes] at h
    cases h
  have hbroken : response.body = .cutShort ∨ response.body = .timedOut := by
    cases hreceived : response.body with
    | complete bytes => exact absurd hreceived (hbody bytes)
    | cutShort => exact .inl rfl
    | timedOut => exact .inr rfl
  refine ⟨?_, hbody⟩
  by_contra hsuccess
  rw [captureOf_broken hbroken, if_neg hsuccess] at h
  cases h

/-! ### Clients -/

namespace Client

variable {client : Client (StateM σ)} {request : Request} {capture : Capture} {failure : Failure}

/-- The request that a client prepares with the credentials it gets ends in a response. -/
def Receives (client : Client (StateM σ)) (request : Request) (s : σ) (url : Url)
    (response : WireResponse) (s' : σ) : Prop :=
  ∃ credentials s₁ wire, client.credentials.run s = (.ok credentials, s₁) ∧
    prepare credentials request = .ok wire ∧
    FinalResponse client.transport redirectionLimit wire s₁ url response s'

theorem execute_of_receives (h : client.Receives request s url response s') :
    ∃ after, (client.execute request).run s = (.ofExcept (captureOf url response), after) := by
  obtain ⟨credentials, s₁, wire, hasked, hprepare, hfinal⟩ := h
  rw [execute, run_bind_of_eq hasked]
  dsimp only
  rw [hprepare]
  dsimp only
  rw [run_bind_of_eq (follow_eq_ok_iff.2 hfinal)]
  dsimp only
  cases captureOf url response with
  | error failure => exact ⟨_, rfl⟩
  | ok capture => exact ⟨_, rfl⟩

/-- Without a final response there is a failure. -/
theorem receives_or_failed (client : Client (StateM σ)) (request : Request) (s : σ) :
    (∃ url response s', client.Receives request s url response s') ∨
      ∃ failure after, (client.execute request).run s = (.failed failure, after) := by
  obtain ⟨answer, s₁, hasked⟩ := exists_run client.credentials s
  rw [execute, run_bind_of_eq hasked]
  cases answer with
  | error error => exact .inr ⟨_, _, rfl⟩
  | ok credentials =>
    dsimp only
    cases hprepare : prepare credentials request with
    | error failure => exact .inr ⟨_, _, rfl⟩
    | ok wire =>
      obtain ⟨found, s₂, hfollow⟩ := exists_run (follow client.transport redirectionLimit wire) s₁
      cases found with
      | error failure =>
        dsimp only
        rw [run_bind_of_eq hfollow]
        exact .inr ⟨_, _, rfl⟩
      | ok found =>
        have hfinal := follow_eq_ok_iff.1 hfollow
        exact .inl ⟨found.1, found.2, s₂, credentials, s₁, wire, hasked, hprepare, hfinal⟩

/-- A body that is read becomes the text of the capture. -/
theorem execute_of_complete (h : client.Receives request s url response s') {bytes : Bytes}
    (hbody : response.body = .complete bytes) : ∃ t after, Utf8.Reads bytes t ∧
      let capture := Capture.ofBody response.status (String.ofList t)
      (client.execute request).run s = (.returned capture, after) ∧
        capture.effectiveText = String.ofList t ∧
        ((∃ text, bytes = Utf8.encode text) → Utf8.encodeString capture.effectiveText = bytes) := by
  obtain ⟨after, hrun⟩ := execute_of_receives h
  rw [captureOf_complete hbody] at hrun
  refine ⟨Utf8.decodeLossy bytes, after, Utf8.reads_decodeLossy bytes, hrun, ?_, ?_⟩
  · exact Capture.effectiveText_ofBody _ _
  · rintro ⟨text, rfl⟩
    rw [Capture.effectiveText_ofBody, Utf8.encodeString, String.toList_ofList,
      Utf8.decodeLossy_encode]

theorem execute_of_broken (h : client.Receives request s url response s')
    (hbody : response.body = .cutShort ∨ response.body = .timedOut) :
    (response.status < 400 →
      ∃ after, (client.execute request).run s = (.returned ⟨response.status, "", ""⟩, after)) ∧
    (400 ≤ response.status →
      ∃ text after,
        (client.execute request).run s = (.failed (.unreadableError text), after)) := by
  obtain ⟨after, hrun⟩ := execute_of_receives h
  rw [captureOf_broken hbody] at hrun
  constructor
  · intro hstatus
    rw [if_neg (UInt16.not_le.2 hstatus)] at hrun
    exact ⟨after, hrun⟩
  · intro hstatus
    rw [if_pos hstatus] at hrun
    exact ⟨_, after, hrun⟩

/-- A capture is that of a final response. -/
theorem exists_captureOf {after : σ}
    (h : (client.execute request).run s = (.returned capture, after)) :
    ∃ url response, captureOf url response = .ok capture := by
  rcases receives_or_failed client request s with
    ⟨url, response, s', hreceives⟩ | ⟨failure, after', hfailed⟩
  · obtain ⟨after', hrun⟩ := execute_of_receives hreceives
    rw [h] at hrun
    exact ⟨url, response, Outcome.ofExcept_eq_returned.1 (Prod.mk.inj hrun).1.symm⟩
  · rw [h] at hfailed
    cases hfailed

/-- The text of a final response goes to the channel of its status. A body that cannot be read
counts as empty for a success and is a failure for an error. The other channel of a capture is
empty, so the signatures of errors are found in errors only; and no status is a failure in
itself. -/
theorem execute_captures (client : Client (StateM σ)) (request : Request) (s : σ) :
    (∀ url response s', client.Receives request s url response s' →
      (∀ bytes, response.body = .complete bytes → ∃ t after, Utf8.Reads bytes t ∧
        let capture := Capture.ofBody response.status (String.ofList t)
        (client.execute request).run s = (.returned capture, after) ∧
          capture.effectiveText = String.ofList t ∧
          ((∃ text, bytes = Utf8.encode text) → Utf8.encodeString capture.effectiveText = bytes)) ∧
      (response.body = .cutShort ∨ response.body = .timedOut →
        (response.status < 400 →
          ∃ after, (client.execute request).run s = (.returned ⟨response.status, "", ""⟩, after)) ∧
        (400 ≤ response.status →
          ∃ text after,
            (client.execute request).run s = (.failed (.unreadableError text), after)))) ∧
    (∀ capture after, (client.execute request).run s = (.returned capture, after) →
      (capture.status < 400 → capture.errorText = "") ∧
        (400 ≤ capture.status → capture.successText = "") ∧
        ∀ className code,
          capture.assertServerError className code = .ok () → 400 ≤ capture.status) ∧
    ∀ failure after, (client.execute request).run s = (.failed failure, after) →
      ∀ url response s', client.Receives request s url response s' →
        400 ≤ response.status ∧ ∀ bytes, response.body ≠ .complete bytes := by
  refine ⟨fun url response s' hreceives => ⟨?_, execute_of_broken hreceives⟩, ?_, ?_⟩
  · intro bytes hbody
    exact execute_of_complete hreceives hbody
  · intro capture after hreturned
    obtain ⟨url, response, hcapture⟩ := exists_captureOf hreturned
    obtain ⟨hsuccess, herror⟩ := captureOf_eq_ok hcapture
    refine ⟨hsuccess, herror, fun className code hfound => ?_⟩
    by_contra hlow
    have hempty := hsuccess (UInt16.not_le.1 hlow)
    exact Capture.assertServerError_of_empty hempty className code hfound
  · intro failure after hfailed url response s' hreceives
    obtain ⟨after', hrun⟩ := execute_of_receives hreceives
    rw [hfailed] at hrun
    exact captureOf_eq_error (Outcome.ofExcept_eq_failed.1 (Prod.mk.inj hrun).1.symm)

/-- An address on this very machine. -/
def onMachine (segment : Text) : Url where
  scheme := .http
  authority := some ⟨[], none, some Settings.loopback, none⟩
  path := .segments [segment]
  query := none
  fragment := none

/-- A client whose server gives one response, at one place, and sends it there. -/
def movedTo (segment : Text) (response : WireResponse) : Client (StateM Unit) where
  credentials := .fixed .anonymous
  transport wire := pure (.answered (if wire.url = onMachine segment then response
    else ⟨302, some (Utf8.encode ('/' :: segment)), .timedOut⟩))
  log _ := pure ()

/-- The body of the redirection cannot be read, and that of the error stops within a character. -/
theorem execute_captures_moved :
    ∃ after, ((movedTo "new".toList ⟨500, none, .complete [0x61, 0xE2, 0x82]⟩).execute
      ⟨.get, "http://[::1]/old", none⟩).run () = (.returned ⟨500, "", "a\uFFFD"⟩, after) := by
  have hprepare : prepare .anonymous ⟨.get, "http://[::1]/old", none⟩ =
      .ok ⟨.get, onMachine "old".toList, [], none⟩ := by
    decide +kernel
  have hmoved : redirection? ⟨.get, onMachine "old".toList, [], none⟩
      ⟨302, some (Utf8.encode "/new".toList), .timedOut⟩ =
        some ⟨.get, onMachine "new".toList, [], none⟩ := by
    decide +kernel
  have hsendable : isSendable (onMachine "new".toList) = true := by decide +kernel
  have hlast : redirection? ⟨.get, onMachine "new".toList, [], none⟩
      ⟨500, none, .complete [0x61, 0xE2, 0x82]⟩ = none := rfl
  have hreceives : (movedTo "new".toList ⟨500, none, .complete [0x61, 0xE2, 0x82]⟩).Receives
      ⟨.get, "http://[::1]/old", none⟩ () (onMachine "new".toList)
        ⟨500, none, .complete [0x61, 0xE2, 0x82]⟩ () :=
    ⟨.anonymous, (), _, rfl, hprepare, .redirected rfl hmoved hsendable (.last rfl hlast)⟩
  obtain ⟨t, after, hreads, hrun, -⟩ :=
    ((execute_captures _ _ _).1 _ _ _ hreceives).1 [0x61, 0xE2, 0x82] rfl
  have htext : t = "a\uFFFD".toList := by
    rw [← Utf8.decodeLossy_eq_iff.2 hreads]
    decide +kernel
  exact ⟨after, by rw [hrun, htext]; rfl⟩

end Client

end Http

end RestConformance
