import RestConformance.Proofs.Server.BaseAddress
import RestConformance.Proofs.Server.Preparation
import RestConformance.Proofs.Text.Digits
import RestConformance.Proofs.Text.Occurrences
import RestConformance.Proofs.Text.Utf8
import RestConformance.Proofs.Url.LowerCase

/-!
# Failures to connect

What kind of failure it is when a server cannot be reached is told by words, which are looked for in
the reason and in the address of the request. So the path of a request, its query and its fragment
decide about the kind as well, and with them the name of a user who is named in the query.

## Main definitions

* `Http.Cause` – the kinds of failures, `Http.Cause.inText t` the one that a text tells of;
* `Http.wording url` – what an address tells apart from its host;
* `Http.Client.Unreached` – a request whose server cannot be reached.

## Main results

* `Http.inText_write` – the words of an address are those of its parts;
* `Http.Client.unreached_alike_iff` – when two such requests fail in the same way;
* `Http.Client.refusal_becomes_unknown` – a refusal that is taken for an unknown host;
* `Http.Client.unreached_of_named` – users whose requests always seem to have an unknown host.
-/

namespace RestConformance

namespace Form

theorem encode_append (s t : Text) : encode (s ++ t) = encode s ++ encode t := by
  simp [encode, Utf8.encode]

/-- Letters stand for themselves. -/
theorem encode_letter {c : Char} (h : 'a'.toNat ≤ c.toLower.toNat ∧ c.toLower.toNat ≤ 'z'.toNat) :
    encode [c] = [c] := by
  have hbounds : 0x41 ≤ c.toNat ∧ c.toNat ≤ 0x5A ∨ 0x61 ≤ c.toNat ∧ c.toNat ≤ 0x7A := by
    cases hcapital : c.isUpper with
    | false =>
      rw [Idna.toLower_of_not_isUpper hcapital] at h
      exact .inr h
    | true => exact .inl (Idna.isUpper_iff.1 hcapital)
  have hbyte : (UInt8.ofNat c.toNat).toNat = c.toNat := Utf8.toNat_ofNat (by omega)
  have hplain : isPlain (UInt8.ofNat c.toNat) = true := by
    simp only [isPlain, hbyte, Bool.or_eq_true, Bool.and_eq_true, decide_eq_true_eq]
    omega
  simp [encode, Utf8.encode, Utf8.encodeChar_one (c := c) (by omega), encodeByte, hplain,
    hbyte]

theorem encode_letters {t : Text}
    (h : ∀ c ∈ t, 'a'.toNat ≤ c.toLower.toNat ∧ c.toLower.toNat ≤ 'z'.toNat) :
    encode t = t := by
  induction t with
  | nil => rfl
  | cons c rest ih =>
    have hrest := ih fun d hd => h d (List.mem_cons_of_mem _ hd)
    rw [← List.singleton_append, encode_append, encode_letter (h c List.mem_cons_self), hrest]

end Form

namespace Http

/-- Why a server cannot be reached. -/
inductive Cause where
  | unknownName
  | refusal
  | other
  deriving DecidableEq, Repr

namespace Cause

/-- The cause that counts if there are two. -/
def or : Cause → Cause → Cause
  | .unknownName, _ => .unknownName
  | _, .unknownName => .unknownName
  | .refusal, _ => .refusal
  | _, .refusal => .refusal
  | .other, .other => .other

variable (a : Cause)

@[simp]
theorem or_other : a.or .other = a := by
  cases a <;> rfl

@[simp]
theorem other_or : other.or a = a := by
  cases a <;> rfl

@[simp]
theorem unknownName_or : unknownName.or a = .unknownName := by
  cases a <;> rfl

@[simp]
theorem or_unknownName : a.or .unknownName = .unknownName := by
  cases a <;> rfl

instance : Std.Associative Cause.or where
  assoc a b c := by cases a <;> cases b <;> cases c <;> rfl

instance : Std.Commutative Cause.or where
  comm a b := by cases a <;> cases b <;> rfl

/-- Whether a word occurs in a text, in small letters or in capitals. -/
def occurs (word : String) (t : Text) : Bool :=
  Text.contains (Text.lowerAscii t) word.toList

/-- The cause that a text tells of, by the words that occur in it. -/
def inText (t : Text) : Cause :=
  if occurs "dns" t || occurs "resolve" t then .unknownName
  else if occurs "refused" t then .refusal
  else .other

/-- The failure of a request for an address. -/
def failure (url : Url) : Cause → Failure
  | .unknownName => .unknownHost (hostText url) (sendingText url)
  | .refusal => .connectionRefused (hostText url) (.ofNat (url.effectivePort?.getD 80))
  | .other => .connectionFailed (sendingText url)

end Cause

/-- The cause that a failure to connect tells of. -/
def Failure.cause? : Failure → Option Cause
  | .unknownHost .. => some .unknownName
  | .connectionRefused .. => some .refusal
  | .connectionFailed _ => some .other
  | _ => none

@[simp]
theorem Cause.cause?_failure (url : Url) (cause : Cause) :
    (cause.failure url).cause? = some cause := by
  cases cause <;> rfl

/-- A refusal is reported as one unless the name of the host is said to be unknown. -/
theorem Cause.failure_or_refusal_iff (told : Cause) (url : Url) :
    (told.or .refusal).failure url =
        .connectionRefused (hostText url) (.ofNat (url.effectivePort?.getD 80)) ↔
      told ≠ .unknownName := by
  cases told <;> simp [Cause.or, Cause.failure]

/-! ### Words in texts -/

namespace Cause

variable {c : Char} {run rest t : Text}

/-- A character that occurs in none of the words. -/
def IsApart (c : Char) : Prop :=
  ∀ word ∈ ["dns", "resolve", "refused"], c.toLower ∉ word.toList

instance : Decidable (IsApart c) :=
  inferInstanceAs (Decidable (∀ word ∈ ["dns", "resolve", "refused"], c.toLower ∉ word.toList))

theorem occurs_append_cons {word : String} (hc : c.toLower ∉ word.toList) :
    occurs word (run ++ c :: rest) = (occurs word run || occurs word rest) := by
  rw [Bool.eq_iff_iff, Bool.or_eq_true]
  simp only [occurs, Text.contains_iff, Text.lowerAscii, List.map_append, List.map_cons]
  exact Text.infix_separated_iff hc

/-- No word goes over a character that occurs in none. -/
theorem inText_append_cons (hc : IsApart c) :
    inText (run ++ c :: rest) = (inText run).or (inText rest) := by
  unfold inText
  rw [occurs_append_cons (hc "dns" (by simp)), occurs_append_cons (hc "resolve" (by simp)),
    occurs_append_cons (hc "refused" (by simp))]
  cases occurs "dns" run <;> cases occurs "resolve" run <;> cases occurs "refused" run <;>
    cases occurs "dns" rest <;> cases occurs "resolve" rest <;> cases occurs "refused" rest <;> rfl

@[simp]
theorem inText_nil : inText [] = .other :=
  rfl

theorem inText_cons (hc : IsApart c) : inText (c :: rest) = inText rest := by
  have hsplit : inText ([] ++ c :: rest) = (inText []).or (inText rest) := inText_append_cons hc
  rwa [inText_nil, other_or] at hsplit

/-- No word goes over the start of a text that starts with such a character. -/
theorem inText_append (h : ∀ c ∈ t.head?, IsApart c) :
    inText (run ++ t) = (inText run).or (inText t) := by
  cases t with
  | nil => simp
  | cons c rest =>
    have hc : IsApart c := h c rfl
    rw [inText_append_cons hc, inText_cons hc]

theorem toLower_ne_of_isDigit (h : c.isDigit = true) : c.toLower ≠ 's' := by
  have hbounds := h
  rw [Char.isDigit, Bool.and_eq_true, decide_eq_true_eq, decide_eq_true_eq] at hbounds
  have hlow : c.toNat ≤ 57 := hbounds.2
  rw [Idna.toLower_of_not_isUpper (Idna.isUpper_eq_false (.inl (by omega)))]
  rintro rfl
  exact absurd h (by decide)

/-- There is an `s` in each of the words. -/
theorem inText_eq_other (h : ∀ c ∈ t, c.toLower ≠ 's') : inText t = .other := by
  have hnone : ∀ word : String, 's' ∈ word.toList → occurs word t = false := by
    intro word hword
    rw [occurs, Bool.eq_false_iff, Ne, Text.contains_iff]
    intro hoccurs
    obtain ⟨c, hc, hlower⟩ := List.mem_map.1 (hoccurs.subset hword)
    exact h c hc hlower
  unfold inText
  rw [hnone "dns" (by decide), hnone "resolve" (by decide), hnone "refused" (by decide)]
  rfl

theorem inText_digits (n : Nat) : inText (Decimal.digits n) = .other :=
  inText_eq_other fun _ hc => toLower_ne_of_isDigit (Decimal.isDigit_of_mem_digits hc)

end Cause

/-- The kind of a failure to connect is told by the address and by the reason. -/
theorem connectFailure_eq (url : Url) (reason : String) :
    connectFailure url reason =
      ((Cause.inText url.write).or (Cause.inText reason.toList)).failure url := by
  rw [← Cause.inText_append_cons (c := ' ') (by decide)]
  unfold connectFailure Cause.inText Cause.occurs
  dsimp only
  split
  · rfl
  · split <;> rfl

/-! ### Words in addresses -/

/-- The cause that an address tells of apart from its host: in the user, the path, the query and the
fragment. -/
def wording (url : Url) : Cause :=
  (Cause.inText ((url.authority.map Url.Authority.writeUser).getD [])).or
    ((Cause.inText url.path.write).or
      ((Cause.inText (Url.writeQuery url.query)).or
        (Cause.inText (Url.writeFragment url.fragment))))

open Url (Authority)

variable {a : Authority}

theorem inText_writeUser_append (t : Text) :
    Cause.inText (a.writeUser ++ t) = (Cause.inText a.writeUser).or (Cause.inText t) := by
  unfold Authority.writeUser
  split
  · simp
  · rw [List.append_assoc, List.singleton_append, Cause.inText_append_cons (by decide),
      Cause.inText_append_cons (by decide), Cause.inText_nil, Cause.or_other]

theorem inText_writeHost {url : Url} (ha : url.authority = some a) :
    Cause.inText a.writeHost = Cause.inText (hostText url).toList := by
  have hhost : Cause.inText (hostText url).toList =
      Cause.inText ((a.host.map Url.Host.write).getD []) := by
    rw [hostText, Url.host?, ha, Option.bind_some]
    cases a.host with
    | none => decide
    | some host => simp
  have hcolon : Cause.IsApart ':' := by decide
  rw [hhost, Authority.writeHost]
  cases a.port with
  | none => cases a.host <;> simp
  | some port =>
    cases a.host <;>
      simp [Cause.inText_append_cons hcolon, Cause.inText_cons hcolon, Cause.inText_digits]

theorem head?_writeQuery (query : Option Text) :
    ∀ c ∈ (Url.writeQuery query).head?, Cause.IsApart c := by
  cases query <;> simp [Url.writeQuery]
  decide

theorem head?_writeFragment (fragment : Option Text) :
    ∀ c ∈ (Url.writeFragment fragment).head?, Cause.IsApart c := by
  cases fragment <;> simp [Url.writeFragment]
  decide

theorem head?_writeSegments (segments : List Text) :
    ∀ c ∈ (Url.Path.write (.segments segments)).head?, Cause.IsApart c := by
  cases segments <;> simp [Url.Path.write]
  decide

/-- The cause that an address of the web tells of. Its scheme and its port tell of none. -/
theorem inText_write {url : Url} (hhttp : url.scheme.isHttp = true)
    (ha : url.authority = some a) {segments : List Text} (hpath : url.path = .segments segments) :
    Cause.inText url.write = (wording url).or (Cause.inText (hostText url).toList) := by
  have hscheme : Cause.inText url.scheme.name = .other := by
    rcases Url.scheme_cases hhttp with hscheme | hscheme <;> rw [hscheme] <;> decide
  have hfront : url.writeFront =
      (url.scheme.name ++ ':' :: '/' :: '/' :: (a.writeUser ++ a.writeHost)) ++ url.path.write := by
    simp [Url.writeFront, ha, Authority.write]
  have huser : (url.authority.map Authority.writeUser).getD [] = a.writeUser := by
    rw [ha, Option.map_some, Option.getD_some]
  have hslash : ∀ c ∈ url.path.write.head?, Cause.IsApart c := by
    rw [hpath]
    exact head?_writeSegments segments
  rw [Url.write, Cause.inText_append (head?_writeFragment _),
    Cause.inText_append (head?_writeQuery _), hfront, Cause.inText_append hslash,
    Cause.inText_append_cons (by decide), hscheme, Cause.inText_cons (by decide),
    Cause.inText_cons (by decide), inText_writeUser_append, inText_writeHost ha, wording, huser,
    Cause.other_or]
  ac_rfl

/-! ### Words in the names of users -/

/-- A word of letters that occurs in a text occurs in its written form. -/
theorem Cause.occurs_encode {word : String} {t : Text}
    (hword : ∀ d ∈ word.toList, 'a'.toNat ≤ d.toNat ∧ d.toNat ≤ 'z'.toNat)
    (h : occurs word t = true) : occurs word (Form.encode t) = true := by
  rw [occurs, Text.contains_iff] at h ⊢
  obtain ⟨before, after, hsplit⟩ := h
  obtain ⟨front, back, rfl, hfront, -⟩ := List.map_eq_append_iff.1 hsplit.symm
  obtain ⟨opening, found, rfl, -, hfound⟩ := List.map_eq_append_iff.1 hfront
  have hletters : ∀ c ∈ found, 'a'.toNat ≤ c.toLower.toNat ∧ c.toLower.toNat ≤ 'z'.toNat := by
    intro c hc
    apply hword
    rw [← hfound]
    exact List.mem_map_of_mem hc
  rw [Form.encode_append, Form.encode_append, Form.encode_letters hletters]
  refine ⟨Text.lowerAscii (Form.encode opening), Text.lowerAscii (Form.encode back), ?_⟩
  simp [Text.lowerAscii, ← hfound]

theorem Cause.unknownName_of_encode {t : Text} (h : inText t = .unknownName) :
    inText (Form.encode t) = .unknownName := by
  have hoccurs : (occurs "dns" t || occurs "resolve" t) = true := by
    by_contra hnone
    rw [inText, if_neg hnone] at h
    split at h <;> cases h
  rw [Bool.or_eq_true] at hoccurs
  rw [inText, if_pos]
  rw [Bool.or_eq_true]
  exact hoccurs.imp (occurs_encode (by decide)) (occurs_encode (by decide))

theorem wording_of_named {user : String} {url : Url}
    (h : Cause.inText user.toList = .unknownName) :
    wording (addressed (.pseudoUser user) url) = .unknownName := by
  have hquery : (addressed (.pseudoUser user) url).query =
      some (Form.append (url.query.getD []) "user.name".toList user.toList) :=
    addressed_eq_withParameter Url.query fun _ => rfl
  have hparameter : Cause.inText (Url.writeQuery (addressed (.pseudoUser user) url).query) =
      .unknownName := by
    rw [hquery, Url.writeQuery, Form.append, ← List.cons_append,
      Cause.inText_append_cons (by decide), Cause.unknownName_of_encode h, Cause.or_unknownName]
  simp [wording, hparameter]

/-! ### Requests -/

variable {σ τ : Type} {credentials : Credentials} {request : Request} {wire : WireRequest}
  {reason : String} {url : Url}

theorem hostText_eq {a b : Url} (h : a.host? = b.host?) : hostText a = hostText b := by
  rw [hostText, h, hostText]

/-- The failure of a request whose server cannot be reached is told by its address, apart from the
host, and by what the requests to that server have in common: the host and the reason. -/
theorem connectFailure_of_prepare (h : prepare credentials request = .ok wire)
    (hparse : Url.parse request.url = .ok url) :
    connectFailure wire.url reason =
      ((wording (addressed credentials url)).or
        ((Cause.inText (hostText url).toList).or (Cause.inText reason.toList))).failure
          (addressed credentials url) := by
  obtain ⟨found, hfound, -, hsendable, rfl⟩ := exists_of_prepare h
  obtain rfl : url = found := Except.ok.inj (hparse.symm.trans hfound)
  have hhttp : url.scheme.isHttp = true := by
    simp only [isSendable, scheme_addressed, Bool.and_eq_true] at hsendable
    exact hsendable.1.1
  obtain ⟨a, host, hweb⟩ := Url.isWeb_of_parseText hparse hhttp
  obtain ⟨segments, hpath, -, -⟩ := hweb.path
  have hauthority : (addressed credentials url).authority.isSome = true := by
    rw [addressed_keeps (·.authority.isSome) (fun _ _ _ => rfl) fun _ => Option.isSome_map,
      hweb.authority_eq, Option.isSome_some]
  obtain ⟨b, hb⟩ := Option.isSome_iff_exists.1 hauthority
  dsimp only
  rw [connectFailure_eq, inText_write (by rw [scheme_addressed, hhttp]) hb
    (by rw [path_addressed, hpath]), hostText_eq host?_addressed]
  ac_rfl

theorem follow_unreachable (send : Transport (StateM σ)) (left : Nat) :
    Ensures (fun s => ((send wire).run s).1 = .unreachable reason) (follow send left wire)
      fun found _ => found = .error (connectFailure wire.url reason) := by
  have hsend : Ensures (fun s => ((send wire).run s).1 = .unreachable reason) (send wire)
      fun exchange _ => exchange = .unreachable reason := fun _ h => h
  cases left <;> rw [follow] <;> refine .bind hsend fun exchange => ?_ <;> rintro s rfl <;> rfl

/-- A request that is prepared, and whose server cannot be reached then. -/
structure Client.Unreached (client : Client (StateM σ)) (request : Request) (s : σ)
    (credentials : Credentials) (reason : String) : Prop where
  /-- The client gets credentials. -/
  asked : (client.credentials.run s).1 = .ok credentials
  /-- There is no connection for what is prepared with them. -/
  unreachable : ∃ wire, prepare credentials request = .ok wire ∧
    ((client.transport wire).run (client.credentials.run s).2).1 = .unreachable reason

namespace Client

variable {client : Client (StateM σ)} {s : σ}

theorem Unreached.execute_eq (h : client.Unreached request s credentials reason)
    (hparse : Url.parse request.url = .ok url) :
    ((client.execute request).run s).1 = .failed
      (((wording (addressed credentials url)).or
        ((Cause.inText (hostText url).toList).or (Cause.inText reason.toList))).failure
          (addressed credentials url)) := by
  obtain ⟨wire, hprepare, hunreachable⟩ := h.unreachable
  rw [← connectFailure_of_prepare hprepare hparse]
  have hasked : Ensures (fun world => world = s) client.credentials fun answer world =>
      answer = .ok credentials ∧
        ((client.transport wire).run world).1 = .unreachable reason := by
    rintro world rfl
    exact ⟨h.asked, hunreachable⟩
  have hfails : Ensures (fun world => world = s) (client.execute request) fun answer _ =>
      answer = .failed (connectFailure wire.url reason) := by
    refine execute_of_ok hasked hprepare (follow_unreachable client.transport redirectionLimit)
      (fun found entry _ hfound => hfound) ?_ ?_ ?_
    · rintro failure _ hfailure
      rw [Except.error.inj hfailure]
    · rintro url response failure _ _ hfound
      cases hfound
    · rintro found capture _ hfound
      cases hfound
  exact hfails s rfl

/-- Requests to one host and port, which cannot be reached for one reason, fail alike just if their
addresses tell the same apart from the host, as far as host and reason do not outweigh it. A refusal
is reported with host and port unless an address holds a word for unknown names. -/
theorem unreached_alike_iff {client₁ : Client (StateM σ)} {client₂ : Client (StateM τ)}
    {request₁ request₂ : Request} {s₁ : σ} {s₂ : τ} {credentials₁ credentials₂ : Credentials}
    {url₁ url₂ : Url} (h₁ : client₁.Unreached request₁ s₁ credentials₁ reason)
    (h₂ : client₂.Unreached request₂ s₂ credentials₂ reason)
    (hparse₁ : Url.parse request₁.url = .ok url₁) (hparse₂ : Url.parse request₂.url = .ok url₂)
    (hhost : url₁.host? = url₂.host?) (hport : url₁.effectivePort? = url₂.effectivePort?) :
    ∃ failure₁ failure₂, ((client₁.execute request₁).run s₁).1 = .failed failure₁ ∧
      ((client₂.execute request₂).run s₂).1 = .failed failure₂ ∧
      let told₁ := wording (addressed credentials₁ url₁)
      let told₂ := wording (addressed credentials₂ url₂)
      let shared := (Cause.inText (hostText url₁).toList).or (Cause.inText reason.toList)
      (failure₁.cause? = failure₂.cause? ↔ told₁.or shared = told₂.or shared) ∧
      (shared = .refusal →
        let refused := Failure.connectionRefused (hostText url₁)
          (.ofNat (url₁.effectivePort?.getD 80))
        (failure₁ = refused ↔ told₁ ≠ .unknownName) ∧
          (failure₂ = refused ↔ told₂ ≠ .unknownName)) := by
  have hfirst := h₁.execute_eq hparse₁
  have hsecond := h₂.execute_eq hparse₂
  rw [hostText_eq hhost.symm] at hsecond
  refine ⟨_, _, hfirst, hsecond, ?_, fun hrefusal => ?_⟩
  · rw [Cause.cause?_failure, Cause.cause?_failure, Option.some.injEq]
  · have hrefused₁ := (wording (addressed credentials₁ url₁)).failure_or_refusal_iff
      (addressed credentials₁ url₁)
    have hrefused₂ := (wording (addressed credentials₂ url₂)).failure_or_refusal_iff
      (addressed credentials₂ url₂)
    rw [hostText_eq host?_addressed, effectivePort?_addressed] at hrefused₁ hrefused₂
    rw [hostText_eq hhost.symm, ← hport] at hrefused₂
    rw [hrefusal]
    exact ⟨hrefused₁, hrefused₂⟩

/-- Whoever is named by one of the words for unknown names never hears of another failure. -/
theorem unreached_of_named {user : String}
    (h : client.Unreached request s (.pseudoUser user) reason)
    (huser : Cause.inText user.toList = .unknownName) :
    ∃ host text, ((client.execute request).run s).1 = .failed (.unknownHost host text) := by
  obtain ⟨wire, hprepare, -⟩ := h.unreachable
  obtain ⟨url, hparse, -⟩ := exists_of_prepare hprepare
  have hexecute := h.execute_eq hparse
  rw [wording_of_named huser, Cause.unknownName_or] at hexecute
  exact ⟨_, _, hexecute⟩

/-- What the system says where nobody listens. -/
def refusalText : String := "tcp connect error: Connection refused (os error 111)"

/-- A client whose requests are refused everywhere. -/
def refusing (credentials : Credentials) : Client (StateM Unit) where
  credentials := .fixed credentials
  transport _ := pure (.unreachable refusalText)
  log _ := pure ()

theorem unreached_refusing (hprepared : (prepare credentials request).toBool = true) :
    (refusing credentials).Unreached request () credentials refusalText := by
  cases hprepare : prepare credentials request with
  | error e => simp [hprepare, Except.toBool] at hprepared
  | ok wire => exact ⟨rfl, wire, hprepare, rfl⟩

/-- An address on this very machine at which nobody listens. -/
def closedPort (segments : List Text) (query : Option Text) : Url where
  scheme := .http
  authority := some ⟨[], none, some Settings.loopback, some 1⟩
  path := .segments segments
  query := query
  fragment := none

/-- Two users who ask for two paths learn alike that they are refused. -/
theorem unreached_alike_iff_of_refusals :
    ∃ failure₁ failure₂,
      (((refusing (.pseudoUser "alice")).execute ⟨.get, "http://[::1]:1/version", none⟩).run ()).1 =
          .failed failure₁ ∧
        (((refusing (.basic "bob" "pw")).execute ⟨.get, "http://[::1]:1/v1/link?x", none⟩).run
          ()).1 = .failed failure₂ ∧
        failure₁.cause? = failure₂.cause? ∧
        failure₁ = .connectionRefused "[::1]" 1 ∧ failure₂ = .connectionRefused "[::1]" 1 := by
  have hparse₁ : Url.parse "http://[::1]:1/version" =
      .ok (closedPort ["version".toList] none) := by
    decide +kernel
  have hparse₂ : Url.parse "http://[::1]:1/v1/link?x" =
      .ok (closedPort ["v1".toList, "link".toList] (some ['x'])) := by
    decide +kernel
  have hprepared₁ : (prepare (.pseudoUser "alice") ⟨.get, "http://[::1]:1/version", none⟩).toBool =
      true := by
    decide +kernel
  have hprepared₂ : (prepare (.basic "bob" "pw") ⟨.get, "http://[::1]:1/v1/link?x", none⟩).toBool =
      true := by
    decide +kernel
  obtain ⟨failure₁, failure₂, hfirst, hsecond, halike, hrefused⟩ :=
    unreached_alike_iff (unreached_refusing hprepared₁) (unreached_refusing hprepared₂) hparse₁
      hparse₂ rfl rfl
  obtain ⟨hrefused₁, hrefused₂⟩ := hrefused (by decide +kernel)
  have hplace : Failure.connectionRefused (hostText (closedPort ["version".toList] none))
      (.ofNat ((closedPort ["version".toList] none).effectivePort?.getD 80)) =
        .connectionRefused "[::1]" 1 := by
    decide +kernel
  exact ⟨failure₁, failure₂, hfirst, hsecond, halike.2 (by decide +kernel),
    (hrefused₁.2 (by decide +kernel)).trans hplace, (hrefused₂.2 (by decide +kernel)).trans hplace⟩

/-- A refusal is taken for an unknown name because of the path. -/
theorem refusal_becomes_unknown :
    (((refusing .anonymous).execute ⟨.get, "http://[::1]:1/version", none⟩).run ()).1 =
        .failed (.connectionRefused "[::1]" 1) ∧
      (((refusing .anonymous).execute ⟨.get, "http://[::1]:1/dns", none⟩).run ()).1 =
        .failed (.unknownHost "[::1]"
          "error sending request for url (http://[::1]:1/dns)") := by
  refine ⟨?_, ?_⟩ <;> decide +kernel

end Client

end Http

end RestConformance
