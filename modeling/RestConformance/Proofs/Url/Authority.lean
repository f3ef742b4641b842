import RestConformance.Proofs.Except
import RestConformance.Proofs.Url.Host
import RestConformance.Url.Parser

/-!
# Authorities read back

What stands between the two slashes and the path of an address of the web: its written form holds
no character that ends it, and is read as the same authority unless its host is not.

## Main definitions

* `Url.Authority.IsRead scheme a host` – what is known of an authority that was read;
* `Url.IsInner c` – the character neither ends an authority nor is dropped from an address.

## Main results

* `Url.readAuthority_eq_ok` – authorities that are read are of that kind;
* `Url.readAuthority_write` – they are read back;
* `Url.isInner_write` – their written form ends nowhere before its end.
-/

namespace RestConformance.Url

variable {scheme : Scheme} {followed : Bool} {t left : Text} {a : Authority} {host : Host}
  {c : Char}

/-- What is known of an authority that was read. -/
structure Authority.IsRead (scheme : Scheme) (a : Authority) (host : Host) : Prop where
  host_eq : a.host = some host
  host_read : ∃ t, Host.read t = .ok host
  port : ∀ n, a.port = some n → n < 65536 ∧ scheme.defaultPort? ≠ some n
  username : ∀ c ∈ a.username, Percent.userinfo c = false
  password : ∀ p, a.password = some p → p ≠ [] ∧ ∀ c ∈ p, Percent.userinfo c = false

/-! ### Reading -/

theorem readPort_eq_ok {n : Nat} (h : readPort scheme t = .ok (some n)) :
    n < 65536 ∧ scheme.defaultPort? ≠ some n := by
  unfold readPort at h
  split at h
  · cases h
  split at h
  · next m hm =>
    split at h
    · next hbound =>
      split at h
      · cases h
      · next hother =>
        obtain rfl := Option.some.inj (Except.ok.inj h)
        exact ⟨hbound, hother⟩
    · cases h
  · cases h

theorem readUser_isEncoded (t : Text) :
    (∀ c ∈ (readUser t).1, Percent.userinfo c = false) ∧
      ∀ p, (readUser t).2 = some p → p ≠ [] ∧ ∀ c ∈ p, Percent.userinfo c = false := by
  have hencoded : ∀ s, ∀ c ∈ Percent.encode Percent.userinfo s, Percent.userinfo c = false :=
    fun _ _ hc => Percent.not_mem_set_of_mem_encode Percent.spares_userinfo hc
  unfold readUser
  split
  · next name d password _ =>
    refine ⟨hencoded name, fun p hp => ?_⟩
    obtain rfl := Option.some.inj hp
    exact ⟨Percent.encode_ne_nil (List.cons_ne_nil d password), hencoded _⟩
  · exact ⟨hencoded _, nofun⟩

/-- Special schemes need a host. -/
theorem readHost_eq_ok (hspecial : scheme.isSpecial = true) {found : Option Host}
    (h : readHost scheme t = .ok found) : ∃ host, found = some host ∧ Host.read t = .ok host := by
  rw [readHost, if_pos hspecial] at h
  split at h
  · cases h
  · obtain ⟨host, hread, hfound⟩ := exists_of_map_eq_ok h
    exact ⟨host, hfound.symm, hread⟩

/-- The authority of a user and a place with a special scheme, of which no text is left for the
path. -/
def readPlace (scheme : Scheme) (user place : Text) : Except Error (Authority × Text) := do
  let host ← readHost scheme (splitPort false place).1
  let port ← readPort scheme ((splitPort false place).2.getD [])
  return (⟨(readUser user).1, (readUser user).2, host, port⟩, [])

/-- The text before the last at-sign, if there is one, and the text behind it. -/
def splitUser (t : Text) : Option Text × Text :=
  match Text.splitLast '@' t with
  | some (user, place) => (some user, place)
  | none => (none, t)

/-- With a special scheme only the host and the port can be wrong, or there is nothing at all. -/
theorem readAuthority_special (hspecial : scheme.isSpecial = true) (followed : Bool) (t : Text) :
    readAuthority scheme followed t =
      if (splitUser t).1 = some [] ∧ (splitUser t).2.isEmpty ∧ followed then .error .emptyHost
      else readPlace scheme ((splitUser t).1.getD []) (splitUser t).2 := by
  unfold readAuthority splitUser readPlace
  cases Text.splitLast '@' t
  all_goals
    dsimp only
    split
    · rfl
    · cases hhost : readHost scheme (splitPort false _).1 with
      | error e => rfl
      | ok found =>
        obtain ⟨host, rfl, -⟩ := readHost_eq_ok hspecial hhost
        rw [splitPath, if_pos hspecial]
        rfl

/-- With a special scheme all of the text belongs to the authority. -/
theorem readAuthority_eq_ok (hspecial : scheme.isSpecial = true)
    (h : readAuthority scheme followed t = .ok (a, left)) :
    left = [] ∧ ∃ host, a.IsRead scheme host := by
  rw [readAuthority_special hspecial] at h
  split at h
  · cases h
  unfold readPlace at h
  obtain ⟨found, hhost, h⟩ := exists_of_bind_eq_ok h
  obtain ⟨port, hport, h⟩ := exists_of_bind_eq_ok h
  obtain ⟨rfl, rfl⟩ := Prod.mk.inj (Except.ok.inj h)
  obtain ⟨host, rfl, hread⟩ := readHost_eq_ok hspecial hhost
  obtain ⟨husername, hpassword⟩ := readUser_isEncoded ((splitUser t).1.getD [])
  refine ⟨rfl, host, rfl, ⟨_, hread⟩, fun n hn => ?_, husername, hpassword⟩
  obtain rfl : port = some n := hn
  exact readPort_eq_ok hport

/-! ### Characters of the written form -/

/-- The character neither ends an authority nor is dropped from an address. -/
def IsInner (c : Char) : Prop :=
  0x20 < c.toNat ∧ c ≠ '/' ∧ c ≠ '\\' ∧ c ≠ '?' ∧ c ≠ '#'

instance (c : Char) : Decidable (IsInner c) :=
  inferInstanceAs (Decidable (_ ∧ _))

/-- A visible character of a kind that none of the ends of an authority is of. -/
theorem isInner_of_kind (kind : Char → Prop) (hlow : 0x20 < c.toNat) (h : kind c)
    (hends : ∀ d ∈ ['/', '\\', '?', '#'], ¬kind d) : IsInner c := by
  have hne : ∀ d ∈ ['/', '\\', '?', '#'], c ≠ d := by
    rintro d hd rfl
    exact hends c hd h
  exact ⟨hlow, hne _ (by decide), hne _ (by decide), hne _ (by decide), hne _ (by decide)⟩

theorem isInner_of_isPlain (h : Idna.IsPlain c) : IsInner c := by
  have hpermitted := h.2.2
  rw [Idna.isForbidden, Bool.or_eq_false_iff, Bool.or_eq_false_iff] at hpermitted
  have hlow := of_decide_eq_false hpermitted.1.1
  exact isInner_of_kind (Idna.isForbidden · = false) (by omega) h.2.2 (by decide +kernel)

theorem isInner_of_userinfo (h : Percent.userinfo c = false) : IsInner c := by
  have hlow := Percent.visible_of_fragment (Percent.fragment_of_path (Percent.path_of_userinfo h))
  exact isInner_of_kind (Percent.userinfo · = false) hlow h (by decide)

theorem isInner_of_hexadecimal (h : (Hexadecimal.value? c).isSome = true) : IsInner c := by
  have hlow : 0x2F < c.toNat := by
    unfold Hexadecimal.value? at h
    split at h
    · next hdigit => exact hdigit.1
    split at h
    · next hletter => exact Nat.lt_of_lt_of_le (by decide) hletter.1
    split at h
    · next hletter => exact Nat.lt_of_lt_of_le (by decide) hletter.1
    · exact absurd h Bool.false_ne_true
  exact isInner_of_kind (fun d => (Hexadecimal.value? d).isSome = true) (by omega) h (by decide)

theorem isInner_of_mem_host (h : Host.IsWritten t) (hc : c ∈ t) : IsInner c ∧ c ≠ '@' := by
  cases h with
  | plain _ hchars =>
    refine ⟨isInner_of_isPlain (hchars c hc), ?_⟩
    rintro rfl
    exact absurd (hchars '@' hc).2.2 (by decide +kernel)
  | bracketed hchars =>
    simp only [List.cons_append, List.mem_cons, List.mem_append, List.not_mem_nil,
      or_false] at hc
    rcases hc with rfl | hc | rfl
    · decide
    · rcases hchars c hc with hdigit | rfl
      · refine ⟨isInner_of_hexadecimal hdigit, ?_⟩
        rintro rfl
        exact absurd hdigit (by decide)
      · decide
    · decide

theorem isInner_of_isDigit (h : c.isDigit = true) : IsInner c ∧ c ≠ '@' := by
  have hlow : 0x2F < c.toNat := by
    rw [Char.isDigit, Bool.and_eq_true, decide_eq_true_eq] at h
    exact h.1
  refine ⟨isInner_of_kind (·.isDigit = true) (by omega) h (by decide), ?_⟩
  rintro rfl
  exact absurd h (by decide)

/-! ### Host and port -/

theorem splitPort_plain (h : ∀ c ∈ t, c ≠ ':' ∧ c ≠ '[' ∧ c ≠ ']') (rest : Text) :
    splitPort false (t ++ rest) = (t ++ (splitPort false rest).1, (splitPort false rest).2) := by
  induction t with
  | nil => rfl
  | cons c more ih =>
    obtain ⟨hcolon, hopen, hclose⟩ := h c List.mem_cons_self
    rw [List.cons_append, splitPort, if_neg fun hc => hcolon hc.1, if_neg hopen, if_neg hclose,
      ih fun d hd => h d (List.mem_cons_of_mem c hd)]
    rfl

/-- Colons in brackets do not count. -/
theorem splitPort_inside (h : ∀ c ∈ t, c ≠ '[' ∧ c ≠ ']') (rest : Text) :
    splitPort true (t ++ ']' :: rest) =
      (t ++ ']' :: (splitPort false rest).1, (splitPort false rest).2) := by
  induction t with
  | nil => rfl
  | cons c more ih =>
    obtain ⟨hopen, hclose⟩ := h c List.mem_cons_self
    rw [List.cons_append, splitPort, if_neg fun hc => Bool.false_ne_true hc.2, if_neg hopen,
      if_neg hclose, ih fun d hd => h d (List.mem_cons_of_mem c hd)]
    rfl

theorem splitPort_host (h : Host.IsWritten t) (rest : Text) :
    splitPort false (t ++ rest) = (t ++ (splitPort false rest).1, (splitPort false rest).2) := by
  cases h with
  | plain _ hchars =>
    refine splitPort_plain (fun c hc => ?_) rest
    refine ⟨?_, ?_, ?_⟩ <;> rintro rfl <;>
      exact absurd (hchars _ hc).2.2 (by decide +kernel)
  | @bracketed inner hchars =>
    have hinner : ∀ c ∈ inner, c ≠ '[' ∧ c ≠ ']' := by
      intro c hc
      refine ⟨?_, ?_⟩ <;> rintro rfl <;> exact absurd (hchars _ hc) (by decide)
    have hopened := splitPort_inside hinner rest
    rw [List.cons_append, List.cons_append, List.append_assoc, List.singleton_append, splitPort,
      if_neg (by decide), if_pos rfl, hopened]
    simp

/-! ### The written form -/

theorem readUser_write (h : a.IsRead scheme host) :
    readUser (a.username ++ (match a.password with
      | some password => ':' :: password
      | none => [])) = (a.username, a.password) := by
  have hcolon : ':' ∉ a.username := fun hmem => absurd (h.username ':' hmem) (by decide)
  have husername := Percent.encode_eq_self h.username
  cases hpassword : a.password with
  | none =>
    rw [List.append_nil, readUser, cut, Text.splitFirst_of_notMem hcolon]
    dsimp only
    rw [husername]
  | some password =>
    obtain ⟨hsome, hencoded⟩ := h.password password hpassword
    obtain ⟨d, rest, rfl⟩ := List.exists_cons_of_ne_nil hsome
    rw [readUser, cut, Text.splitFirst_append hcolon]
    dsimp only
    rw [husername, Percent.encode_eq_self hencoded]

theorem readPort_write (h : a.IsRead scheme host) :
    readPort scheme ((a.port.map Decimal.digits).getD []) = .ok a.port := by
  cases hport : a.port with
  | none => rfl
  | some n =>
    obtain ⟨hbound, hother⟩ := h.port n hport
    rw [Option.map_some, Option.getD_some, readPort, if_neg, Decimal.number?_digits]
    · dsimp only
      rw [if_pos hbound, if_neg hother]
    · rw [List.isEmpty_iff]
      exact Decimal.digits_ne_nil n

theorem splitPort_writeHost (h : a.IsRead scheme host) :
    splitPort false a.writeHost = (host.write, a.port.map Decimal.digits) := by
  obtain ⟨t, ht⟩ := h.host_read
  rw [Authority.writeHost, h.host_eq]
  dsimp only
  rw [splitPort_host (Host.isWritten ht)]
  cases a.port with
  | none => simp [splitPort]
  | some n => simp [splitPort]

theorem writeHost_ne_nil (h : a.IsRead scheme host) : a.writeHost ≠ [] := by
  obtain ⟨t, ht⟩ := h.host_read
  rw [Authority.writeHost, h.host_eq]
  exact List.append_ne_nil_of_left_ne_nil (Host.isWritten ht).ne_nil _

theorem isInner_writeHost (h : a.IsRead scheme host) (hc : c ∈ a.writeHost) :
    IsInner c ∧ c ≠ '@' := by
  obtain ⟨t, ht⟩ := h.host_read
  rw [Authority.writeHost, h.host_eq] at hc
  rcases List.mem_append.1 hc with hhost | hport
  · exact isInner_of_mem_host (Host.isWritten ht) hhost
  · split at hport
    · rcases List.mem_cons.1 hport with rfl | hdigit
      · decide
      · exact isInner_of_isDigit (Decimal.isDigit_of_mem_digits hdigit)
    · exact absurd hport List.not_mem_nil

/-- The written form of an authority ends nowhere before its end. -/
theorem isInner_write (h : a.IsRead scheme host) (hc : c ∈ a.write) : IsInner c := by
  rw [Authority.write, List.mem_append] at hc
  rcases hc with huser | hhost
  · unfold Authority.writeUser at huser
    split at huser
    · exact absurd huser List.not_mem_nil
    · rw [List.mem_append, List.mem_append, List.mem_singleton] at huser
      rcases huser with (husername | hpassword) | rfl
      · exact isInner_of_userinfo (h.username c husername)
      · split at hpassword
        · next password hsome =>
          rcases List.mem_cons.1 hpassword with rfl | hpassword
          · decide
          · exact isInner_of_userinfo ((h.password password hsome).2 c hpassword)
        · exact absurd hpassword List.not_mem_nil
      · decide
  · exact (isInner_writeHost h hhost).1

theorem splitUser_write (h : a.IsRead scheme host) :
    (splitUser a.write).2 = a.writeHost ∧ (splitUser a.write).1 ≠ some [] ∧
      readUser ((splitUser a.write).1.getD []) = (a.username, a.password) := by
  have hat : '@' ∉ a.writeHost := fun hmem => (isInner_writeHost h hmem).2 rfl
  have huser := readUser_write h
  rw [splitUser, Authority.write, Authority.writeUser]
  by_cases hnone : (a.username.isEmpty && a.password.isNone) = true
  · rw [if_pos hnone, List.nil_append, Text.splitLast_of_notMem hat]
    rw [Bool.and_eq_true, List.isEmpty_iff, Option.isNone_iff_eq_none] at hnone
    refine ⟨rfl, nofun, ?_⟩
    rw [hnone.1, hnone.2] at huser ⊢
    exact huser
  · rw [if_neg hnone, List.append_assoc, List.singleton_append, Text.splitLast_append _ hat]
    refine ⟨rfl, fun hempty => hnone ?_, huser⟩
    obtain ⟨husername, hpassword⟩ := List.append_eq_nil_iff.1 (Option.some.inj hempty)
    rw [husername, Bool.and_eq_true, Option.isNone_iff_eq_none]
    refine ⟨rfl, ?_⟩
    cases hsome : a.password with
    | none => rfl
    | some password =>
      rw [hsome] at hpassword
      exact absurd hpassword (List.cons_ne_nil _ _)

/-- The written form of an authority is read as that authority, unless its host is not. -/
theorem readAuthority_write (hspecial : scheme.isSpecial = true) (h : a.IsRead scheme host) :
    readAuthority scheme followed a.write =
      if host.IsReadable then .ok (a, []) else .error .invalidDomain := by
  obtain ⟨hplace, hsome, huser⟩ := splitUser_write h
  obtain ⟨t, ht⟩ := h.host_read
  have hnonempty : ¬host.write.isEmpty = true := by
    rw [List.isEmpty_iff]
    exact (Host.isWritten ht).ne_nil
  rw [readAuthority_special hspecial, if_neg fun hempty => hsome hempty.1, hplace, readPlace,
    splitPort_writeHost h, readHost, if_pos hspecial, if_neg hnonempty, Host.read_write ht,
    readPort_write h, huser]
  split
  · refine congrArg Except.ok (congrArg (·, []) ?_)
    rw [← h.host_eq]
  · rfl

end RestConformance.Url
