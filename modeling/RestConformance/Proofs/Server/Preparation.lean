import Mathlib.Tactic.SplitIfs
import RestConformance.Http.Client
import RestConformance.Proofs.Ensures

/-!
# Prepared requests

What is prepared for a request whose address can be read: which address it goes to, and for which
reasons there is nothing to send. What a client does with a request is settled by what is prepared.

## Main definitions

* `Http.addressed credentials url` – the address that the request of a user for `url` goes to.

## Main results

* `Http.takeUser_cases` – what becomes of the user in an address;
* `Http.prepare_of_parse` – what is prepared, or why not;
* `Http.exists_of_prepare` – what is known of a request that was prepared;
* `Http.Client.execute_of_error`, `Http.Client.execute_of_ok` – what a client does if nothing is
  prepared, and if something is.
-/

namespace RestConformance

namespace Url

variable (url : Url)

@[simp]
theorem host?_withoutUser : url.withoutUser.host? = url.host? := by
  unfold host? withoutUser
  cases url.authority <;> rfl

@[simp]
theorem effectivePort?_withoutUser : url.withoutUser.effectivePort? = url.effectivePort? := by
  unfold effectivePort? withoutUser
  cases url.authority <;> rfl

@[simp]
theorem host?_addPair (name value : Text) : (url.addPair name value).host? = url.host? :=
  rfl

@[simp]
theorem effectivePort?_addPair (name value : Text) :
    (url.addPair name value).effectivePort? = url.effectivePort? :=
  rfl

end Url

namespace Http

variable {credentials : Credentials} {request : Request} {url : Url} {wire : WireRequest}

/-! ### Users in addresses -/

/-- The user of an address stays there and is not told, or is taken out of it and told in one
value. -/
theorem takeUser_cases (url : Url) : takeUser url = (url, []) ∨
    ∃ username password,
      takeUser url = (url.withoutUser, [basicAuthorization username password]) := by
  unfold takeUser
  cases url.authority with
  | none => exact .inl rfl
  | some a =>
    dsimp only
    cases unescape? a.username with
    | none => exact .inl rfl
    | some username =>
      dsimp only
      split
      · exact .inl rfl
      · exact .inr ⟨_, _, rfl⟩

/-- Who is named in an address stands in its authority. -/
theorem takeUser_authority {url home : Url} (h : url.authority = home.authority) :
    (takeUser url).2 = (takeUser home).2 := by
  unfold takeUser
  rw [h]
  cases home.authority with
  | none => rfl
  | some a =>
    dsimp only
    cases unescape? a.username with
    | none => rfl
    | some username =>
      dsimp only
      split <;> rfl

/-! ### Addresses of requests -/

/-- The address of a request with the query parameter of credentials. -/
def withParameter (credentials : Credentials) (url : Url) : Url :=
  match credentials.queryParameter? with
  | some (name, value) => url.addPair name.toList value.toList
  | none => url

@[simp]
theorem authority_withParameter : (withParameter credentials url).authority = url.authority := by
  unfold withParameter
  split <;> rfl

@[simp]
theorem host?_withParameter : (withParameter credentials url).host? = url.host? := by
  simp [Url.host?]

theorem authenticatedUrl_of_parse (h : Url.parse request.url = .ok url) :
    authenticatedUrl request.url credentials = .ok (withParameter credentials url) := by
  unfold authenticatedUrl withParameter
  rw [h]
  dsimp only
  cases credentials.queryParameter? <;> rfl

/-- The address that the request of a user goes to. -/
def addressed (credentials : Credentials) (url : Url) : Url :=
  (takeUser (withParameter credentials url)).1

/-- Whatever is left as it is by leaving out the user is that of the address with the parameter. -/
theorem addressed_eq_withParameter {α : Type} (f : Url → α)
    (huser : ∀ url : Url, f url.withoutUser = f url) :
    f (addressed credentials url) = f (withParameter credentials url) := by
  unfold addressed
  rcases takeUser_cases (withParameter credentials url) with hsame | ⟨_, _, hless⟩
  · rw [hsame]
  · rw [hless, huser]

/-- Whatever is left as it is by a query parameter, and by leaving out the user, is that of the
request. -/
theorem addressed_keeps {α : Type} (f : Url → α)
    (hpair : ∀ (url : Url) name value, f (url.addPair name value) = f url)
    (huser : ∀ url : Url, f url.withoutUser = f url) : f (addressed credentials url) = f url := by
  rw [addressed_eq_withParameter f huser]
  unfold withParameter
  split
  · exact hpair _ _ _
  · rfl

@[simp]
theorem scheme_addressed : (addressed credentials url).scheme = url.scheme :=
  addressed_keeps Url.scheme (fun _ _ _ => rfl) fun _ => rfl

@[simp]
theorem path_addressed : (addressed credentials url).path = url.path :=
  addressed_keeps Url.path (fun _ _ _ => rfl) fun _ => rfl

@[simp]
theorem host?_addressed : (addressed credentials url).host? = url.host? :=
  addressed_keeps Url.host? Url.host?_addPair Url.host?_withoutUser

@[simp]
theorem effectivePort?_addressed :
    (addressed credentials url).effectivePort? = url.effectivePort? :=
  addressed_keeps Url.effectivePort? Url.effectivePort?_addPair Url.effectivePort?_withoutUser

/-- What is prepared for a request with an address that has a host, or why nothing is. -/
theorem prepare_of_parse (credentials : Credentials) (hparse : Url.parse request.url = .ok url)
    (hhost : url.host?.isSome = true) :
    prepare credentials request =
      let authorization := (takeUser url).2 ++ authorizationOf credentials
      if authorization.all (·.all isHeaderByte) = true then
        if isSendable (addressed credentials url) = true then
          .ok ⟨request.method, addressed credentials url, authorization, request.body⟩
        else .error (.other (aboutUrl "builder error" (addressed credentials url)))
      else .error (.other "builder error") := by
  have hsome : (withParameter credentials url).host?.isNone = false := by
    rw [host?_withParameter, Option.isNone_eq_false_iff, hhost]
  have huser : takeUser (withParameter credentials url) =
      (addressed credentials url, (takeUser url).2) :=
    Prod.ext rfl (takeUser_authority authority_withParameter)
  unfold prepare
  rw [authenticatedUrl_of_parse hparse]
  dsimp only [bind, Except.bind]
  rw [hsome, if_neg Bool.false_ne_true, huser]
  by_cases hvalid :
      ((takeUser url).2 ++ authorizationOf credentials).all (·.all isHeaderByte) = true
  · by_cases hsendable : isSendable (addressed credentials url) = true
    · simp [hvalid, hsendable, pure, Except.pure]
    · simp [hvalid, hsendable, throw, throwThe, MonadExceptOf.throw]
  · simp [hvalid, throw, throwThe, MonadExceptOf.throw]

/-- A request that was prepared has an address with a host, and goes where its user sends it. -/
theorem exists_of_prepare (h : prepare credentials request = .ok wire) :
    ∃ url, Url.parse request.url = .ok url ∧ url.host?.isSome = true ∧
      isSendable (addressed credentials url) = true ∧
      wire = ⟨request.method, addressed credentials url,
        (takeUser url).2 ++ authorizationOf credentials, request.body⟩ := by
  cases hparse : Url.parse request.url with
  | error e =>
    simp [prepare, authenticatedUrl, hparse, bind, Except.bind] at h
  | ok url =>
    have hhost : url.host?.isSome = true := by
      cases hnone : url.host? with
      | some host => rfl
      | none =>
        simp [prepare, authenticatedUrl_of_parse hparse, bind, Except.bind, hnone, throw, throwThe,
          MonadExceptOf.throw] at h
    rw [prepare_of_parse credentials hparse hhost] at h
    dsimp only at h
    split_ifs at h with hvalid hsendable
    exact ⟨url, rfl, hhost, hsendable, (Except.ok.inj h).symm⟩

/-! ### Clients -/

section Execute

variable {σ : Type} {client : Client (StateM σ)} {P P' : σ → Prop}
  (hasked : Ensures P client.credentials fun answer s => answer = .ok credentials ∧ P' s)

include hasked

theorem Client.execute_of_error {failure : Failure}
    (hprepare : prepare credentials request = .error failure) :
    Ensures P (client.execute request) fun answer s => answer = .failed failure ∧ P' s := by
  unfold execute
  refine .bind hasked fun answer => ?_
  cases answer with
  | error e =>
    rintro s ⟨hanswer, -⟩
    cases hanswer
  | ok found =>
    refine .given (fun s hs => Except.ok.inj hs.1) fun hfound => ?_
    rw [hfound]
    dsimp only
    rw [hprepare]
    exact .pure fun s hs => ⟨rfl, hs.2⟩

/-- A prepared request is followed up. What holds after that is not touched by what is told of the
response. -/
theorem Client.execute_of_ok {F : Except Failure (Url × WireResponse) → σ → Prop}
    {Q : Outcome Failure Capture → σ → Prop} (hprepare : prepare credentials request = .ok wire)
    (hfollow : Ensures P' (follow client.transport redirectionLimit wire) F)
    (hlog : ∀ found entry, Ensures (F found) (client.log entry) fun _ => F found)
    (hfailed : ∀ failure s, F (.error failure) s → Q (.failed failure) s)
    (hunread : ∀ url response failure s, captureOf url response = .error failure →
      F (.ok (url, response)) s → Q (.failed failure) s)
    (hcaptured : ∀ found capture s, F (.ok found) s → Q (.returned capture) s) :
    Ensures P (client.execute request) Q := by
  unfold execute
  refine .bind hasked fun answer => ?_
  cases answer with
  | error e =>
    rintro s ⟨hanswer, -⟩
    cases hanswer
  | ok found =>
    refine .given (fun s hs => Except.ok.inj hs.1) fun hfound => ?_
    rw [hfound]
    dsimp only
    rw [hprepare]
    refine .bind (.mono (fun s hs => hs.2) hfollow) fun found => ?_
    cases found with
    | error failure => exact .pure (hfailed failure)
    | ok found =>
      dsimp only
      split
      · next failure hcapture => exact .pure fun s => hunread _ _ failure s hcapture
      · next capture hcapture =>
        exact .after (.forM (hlog _) _) fun _ => .after (hlog _ _) fun _ =>
          .pure (hcaptured _ capture)

end Execute

end Http

end RestConformance
