import RestConformance.Proofs.Url.Front
import RestConformance.Settings

/-!
# Settings that are read

What is known of settings that were read, field by field: which variable it comes from, and what
stands in for one that is not set.

## Main definitions

* `Settings.IsReadFrom lookup settings` – each field is that of its variable, and what is read can
  be used.

## Main results

* `Settings.read_eq_ok_iff` – settings are read where that holds, and only there;
* `Settings.IsReadFrom.user_fits`, `Settings.IsReadFrom.suite_fits` – names that are never blank.
-/

namespace RestConformance.Settings

variable {lookup : String → Option String} {settings : Settings} {v : Variable} {e : Error}

/-! ### Single values -/

theorem readBaseUrl_eq_ok_iff {value base : String} :
    readBaseUrl value = .ok base ↔ ∃ url, Url.parse (trimBlanks value) = .ok url ∧
      (url.scheme = .http ∨ url.scheme = .https) ∧ base = String.ofList (withSlash url.write) := by
  simp only [readBaseUrl, ← Url.isHttp_iff]
  cases Url.parse (trimBlanks value) with
  | error _ => simp
  | ok url => by_cases hhttp : url.scheme.isHttp = true <;> simp [hhttp, @eq_comm _ base]

theorem readBaseUrl_eq_error {value : String} (h : readBaseUrl value = .error e) :
    e = .invalidBaseUrl value := by
  unfold readBaseUrl at h
  split at h
  · exact (Except.error.inj h).symm
  · split at h
    · cases h
    · exact (Except.error.inj h).symm

theorem readTimeout_eq_ok_iff {value : String} {ms : UInt64} :
    readTimeout value = .ok ms ↔
      readNumber? (trimBlanks value).toList = some ms.toNat ∧ 1 ≤ ms.toNat := by
  unfold readTimeout
  cases readNumber? (trimBlanks value).toList with
  | none => simp
  | some n =>
    have hms : n < UInt64.size → (UInt64.ofNat n = ms ↔ n = ms.toNat) := by
      intro hn
      rw [← UInt64.toNat_inj, UInt64.toNat_ofNat_of_lt' hn]
    have hbound : ms.toNat < UInt64.size := ms.toNat_lt
    by_cases hn : 0 < n ∧ n < UInt64.size
    · simp [hn, hms hn.2]
      omega
    · simp [hn]
      omega

theorem readTimeout_eq_error {value : String} (h : readTimeout value = .error e) :
    e = .invalidTimeout value := by
  unfold readTimeout at h
  split at h
  · split at h
    · cases h
    · exact (Except.error.inj h).symm
  · exact (Except.error.inj h).symm

theorem notBlank_eq_ok_iff {value taken : Option String} :
    notBlank v value = .ok taken ↔
      taken = value ∧ ∀ s, value = some s → isBlankString s = false := by
  cases value with
  | none => simp [notBlank, @eq_comm _ none]
  | some s => by_cases hblank : isBlankString s = true <;> simp [notBlank, hblank, @eq_comm _ taken]

theorem notBlank_eq_error {value : Option String} (h : notBlank v value = .error e) :
    e = .blank v := by
  unfold notBlank at h
  split at h
  · exact (Except.error.inj h).symm
  · cases h

/-! ### All of them -/

/-- Each field of the settings is that of its variable, and what is read can be used. -/
structure IsReadFrom (lookup : String → Option String) (settings : Settings) : Prop where
  baseUrl : readBaseUrl ((lookup Variable.baseUrl.name).getD standard.baseUrl) =
    .ok settings.baseUrl
  user : settings.user = ((lookup Variable.user.name).or
    ((lookup Variable.systemUser.name).filter (!isBlankString ·))).getD standard.user
  user_not_blank : ∀ s, lookup Variable.user.name = some s → isBlankString s = false
  password : settings.password = (lookup Variable.password.name).filter (· != "")
  bearerToken : settings.bearerToken =
    (lookup Variable.bearerToken.name).filter (!isBlankString ·)
  bearerTokenFile : settings.bearerTokenFile = lookup Variable.bearerTokenFile.name
  file_not_blank : ∀ s, lookup Variable.bearerTokenFile.name = some s → isBlankString s = false
  timeout : (lookup Variable.timeout.name).mapM readTimeout = .ok settings.timeoutMs
  suiteName : settings.suiteName = (lookup Variable.suite.name).getD standard.suiteName
  suite_not_blank : ∀ s, lookup Variable.suite.name = some s → isBlankString s = false

theorem read_eq_ok_iff : read lookup = .ok settings ↔ IsReadFrom lookup settings := by
  constructor
  · intro h
    obtain ⟨base, hbase, h⟩ := exists_of_bind_eq_ok h
    obtain ⟨named, hnamed, h⟩ := exists_of_bind_eq_ok h
    obtain ⟨file, hfile, h⟩ := exists_of_bind_eq_ok h
    obtain ⟨timeoutMs, htimeout, h⟩ := exists_of_bind_eq_ok h
    obtain ⟨suite, hsuite, h⟩ := exists_of_bind_eq_ok h
    obtain ⟨rfl, huserFits⟩ := notBlank_eq_ok_iff.1 hnamed
    obtain ⟨rfl, hfileFits⟩ := notBlank_eq_ok_iff.1 hfile
    obtain ⟨rfl, hsuiteFits⟩ := notBlank_eq_ok_iff.1 hsuite
    obtain rfl := Except.ok.inj h
    exact ⟨hbase, rfl, huserFits, rfl, rfl, rfl, hfileFits, htimeout, rfl, hsuiteFits⟩
  · intro h
    have hnamed := (notBlank_eq_ok_iff (v := .user)).2 ⟨rfl, h.user_not_blank⟩
    have hfile := (notBlank_eq_ok_iff (v := .bearerTokenFile)).2 ⟨rfl, h.file_not_blank⟩
    have hsuite := (notBlank_eq_ok_iff (v := .suite)).2 ⟨rfl, h.suite_not_blank⟩
    rw [← h.bearerTokenFile] at hfile
    simp only [read, h.baseUrl, hnamed, hfile, hsuite, h.timeout, ← h.user, ← h.password,
      ← h.bearerToken, ← h.bearerTokenFile, ← h.suiteName, bind, Except.bind, pure, Except.pure]

theorem IsReadFrom.timeout_of_none (h : IsReadFrom lookup settings)
    (hnone : lookup Variable.timeout.name = none) : settings.timeoutMs = none := by
  have htimeout := h.timeout
  rw [hnone] at htimeout
  exact (Except.ok.inj htimeout).symm

theorem IsReadFrom.timeout_of_some (h : IsReadFrom lookup settings) {value : String}
    (hvalue : lookup Variable.timeout.name = some value) :
    ∃ ms, settings.timeoutMs = some ms ∧ readTimeout value = .ok ms := by
  have htimeout := h.timeout
  rw [hvalue, Option.mapM_some] at htimeout
  obtain ⟨ms, hread, hsome⟩ := exists_of_map_eq_ok htimeout
  exact ⟨ms, hsome.symm, hread⟩

/-! ### What all settings have in common -/

theorem not_blank_of_filter {value : Option String} {s : String}
    (h : value.filter (!isBlankString ·) = some s) : isBlankString s = false := by
  simpa using (Option.filter_eq_some_iff.1 h).2

/-- The user of settings is not blank, wherever it comes from. -/
theorem IsReadFrom.user_fits (h : IsReadFrom lookup settings) :
    isBlankString settings.user = false := by
  rw [h.user]
  cases hnamed : lookup Variable.user.name with
  | some user => exact h.user_not_blank user hnamed
  | none =>
    cases hsystem : (lookup Variable.systemUser.name).filter (!isBlankString ·) with
    | some user => exact not_blank_of_filter hsystem
    | none => decide

theorem IsReadFrom.suite_fits (h : IsReadFrom lookup settings) :
    isBlankString settings.suiteName = false := by
  rw [h.suiteName]
  cases hnamed : lookup Variable.suite.name with
  | some name => exact h.suite_not_blank name hnamed
  | none => decide

end RestConformance.Settings
