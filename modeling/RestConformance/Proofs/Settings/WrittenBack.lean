import RestConformance.Proofs.Server.LongLabels
import RestConformance.Proofs.Settings.Grammar

/-!
# Settings written back

Settings can be written to the variables again that they are read from. What is read then are the
same settings, as far as the address of the server can be read a second time.

## Main definitions

* `Settings.value? settings v` – what a variable is set to when settings are written;
* `Settings.IsWrittenIn settings again` – the variables `again` are set to that;
* `Settings.written settings` – variables that are, and nothing else.

## Main results

* `Url.IsWeb.exists_withSlash` – a slash at the end of an address of the web leaves it one;
* `Settings.read_again` – what is read of settings that are written back;
* `Settings.read_again_fails` – settings that are refused when they are written back.
-/

namespace RestConformance

namespace Url

open Settings (withSlash)

variable {u : Url} {a : Authority} {host : Host}

/-- A slash at the end of the text of an address belongs to its last part: the fragment, the query
or the path. -/
theorem IsWeb.exists_withSlash (h : u.IsWeb a host) :
    ∃ v : Url, v.IsWeb a host ∧ v.scheme = u.scheme ∧ v.write = withSlash u.write := by
  unfold withSlash
  split
  · exact ⟨u, h, rfl, rfl⟩
  -- The slash belongs to whatever comes last: the fragment, the query, or else the path.
  cases hfragment : u.fragment with
  | some f =>
    refine ⟨{ u with fragment := some (f ++ ['/']) }, ⟨h.http, h.authority_eq, h.authority, h.path,
      h.query, ?_⟩, rfl, ?_⟩
    · rintro _ ⟨⟩
      exact List.forall_mem_append.2
        ⟨h.fragment f hfragment, List.forall_mem_singleton.2 (by decide)⟩
    · simp [write, writeFront, writeFragment, hfragment]
  | none =>
    cases hquery : u.query with
    | some q =>
      refine ⟨{ u with query := some (q ++ ['/']) }, ⟨h.http, h.authority_eq, h.authority, h.path,
        ?_, h.fragment⟩, rfl, ?_⟩
      · rintro _ ⟨⟩
        exact List.forall_mem_append.2 ⟨h.query q hquery, List.forall_mem_singleton.2 (by decide)⟩
      · simp [write, writeFront, writeQuery, writeFragment, hfragment, hquery]
    | none =>
      obtain ⟨segments, hpath, hsome, hsettled⟩ := h.path
      refine ⟨{ u with path := .segments (segments ++ [[]]) }, ⟨h.http, h.authority_eq, h.authority,
        ⟨_, rfl, by simp, ?_⟩, h.query, h.fragment⟩, rfl, ?_⟩
      · exact List.forall_mem_append.2 ⟨hsettled, List.forall_mem_singleton.2 isSettled_nil⟩
      · simp [write, writeFront, writeQuery, writeFragment, hfragment, hquery, hpath, Path.write,
          h.authority_eq]

end Url

namespace Settings

open Url (Authority Host)

variable {lookup again : String → Option String} {settings : Settings} {home : Url} {a : Authority}
  {host : Host}

/-! ### The address of the server -/

theorem isTrimmed_write (hweb : home.IsWeb a host) (hlast : home.write.getLast? = some '/') :
    Text.IsTrimmed isBlank home.write := by
  constructor
  · intro c hc
    rw [hweb.write_eq] at hc
    rcases Url.scheme_cases hweb.http with hscheme | hscheme
    all_goals
      rw [hscheme] at hc
      obtain rfl := Option.some.inj hc
      decide
  · intro c hc
    rw [hlast] at hc
    obtain rfl := Option.some.inj hc
    decide

theorem withSlash_of_slash {t : Text} (h : t.getLast? = some '/') : withSlash t = t :=
  if_pos h

theorem getLast?_withSlash (t : Text) : (withSlash t).getLast? = some '/' := by
  unfold withSlash
  split
  · assumption
  · exact List.getLast?_concat

/-- The text of an address of the web is read as it stands, if it ends in a slash and can be read at
all. -/
theorem readBaseUrl_write (hweb : home.IsWeb a host) (hlast : home.write.getLast? = some '/') :
    readBaseUrl (String.ofList home.write) =
      if host.IsReadable then .ok (String.ofList home.write)
      else .error (.invalidBaseUrl (String.ofList home.write)) := by
  have hsome : home.write ≠ [] := by
    intro hnil
    rw [hnil] at hlast
    cases hlast
  rw [readBaseUrl, trimBlanks_of_isTrimmed hsome (isTrimmed_write hweb hlast), Url.parse,
    String.toList_ofList, hweb.parse_write]
  by_cases hreadable : host.IsReadable
  · rw [if_pos hreadable, if_pos hreadable]
    dsimp only
    rw [if_pos hweb.http, withSlash_of_slash hlast]
  · rw [if_neg hreadable, if_neg hreadable]

/-! ### Writing settings -/

/-- What a variable is set to when settings are written. The user of the system has no part in
it. -/
def value? (settings : Settings) : Variable → Option String
  | .baseUrl => some settings.baseUrl
  | .user => some settings.user
  | .systemUser => none
  | .password => settings.password
  | .bearerToken => settings.bearerToken
  | .bearerTokenFile => settings.bearerTokenFile
  | .timeout => settings.timeoutMs.map fun ms => String.ofList (Decimal.digits ms.toNat)
  | .suite => some settings.suiteName

/-- The settings are written to the variables `again`, whatever the user of the system is there. -/
def IsWrittenIn (settings : Settings) (again : String → Option String) : Prop :=
  ∀ v : Variable, v ≠ .systemUser → again v.name = settings.value? v

/-- Variables that settings are written to, and no others. -/
def written (settings : Settings) (name : String) : Option String :=
  ([.baseUrl, .user, .password, .bearerToken, .bearerTokenFile, .timeout, .suite].find?
    fun v : Variable => v.name == name).bind settings.value?

theorem isWrittenIn_written (settings : Settings) : settings.IsWrittenIn settings.written := by
  intro v hv
  cases v with
  | systemUser => exact absurd rfl hv
  | _ => rfl

/-! ### Reading what was written -/

theorem isBlank_of_isDigit {c : Char} (h : c.isDigit = true) : isBlank c = false := by
  have hbounds : 0x30 ≤ c.toNat ∧ c.toNat ≤ 0x39 := by
    rw [Char.isDigit, Bool.and_eq_true, decide_eq_true_eq, decide_eq_true_eq] at h
    exact h
  simp only [isBlank, Bool.or_eq_false_iff, Bool.and_eq_false_iff, decide_eq_false_iff_not,
    beq_eq_false_iff_ne]
  omega

/-- Numbers are read as they are written. -/
theorem readTimeout_digits {ms : UInt64} (h : 1 ≤ ms.toNat) :
    readTimeout (String.ofList (Decimal.digits ms.toNat)) = .ok ms := by
  have hblank : ∀ c ∈ Decimal.digits ms.toNat, isBlank c = false := fun c hc =>
    isBlank_of_isDigit (Decimal.isDigit_of_mem_digits hc)
  have htrimmed : Text.IsTrimmed isBlank (Decimal.digits ms.toNat) :=
    ⟨fun c hc => hblank c (List.mem_of_head? hc), fun c hc => hblank c (List.mem_of_getLast? hc)⟩
  have hwrites : WritesNumber (Decimal.digits ms.toNat) ms.toNat :=
    ⟨_, .inl rfl, Decimal.number?_eq_some_iff.1 (Decimal.number?_digits _)⟩
  rw [readTimeout_eq_ok_iff, trimBlanks_of_isTrimmed (Decimal.digits_ne_nil _) htrimmed,
    String.toList_ofList]
  exact ⟨readNumber?_eq_some_iff.2 hwrites, h⟩

theorem IsReadFrom.timeout_positive (h : IsReadFrom lookup settings) {ms : UInt64}
    (hms : settings.timeoutMs = some ms) : 1 ≤ ms.toNat := by
  cases hvalue : lookup Variable.timeout.name with
  | none =>
    rw [h.timeout_of_none hvalue] at hms
    cases hms
  | some value =>
    obtain ⟨found, hfound, hread⟩ := h.timeout_of_some hvalue
    obtain rfl : found = ms := Option.some.inj (hfound.symm.trans hms)
    exact (readTimeout_eq_ok_iff.1 hread).2

/-- What is read of settings that are written back are the settings, as far as their address is
read as itself. -/
theorem IsReadFrom.written_back (h : IsReadFrom lookup settings)
    (hagain : settings.IsWrittenIn again)
    (hbase : readBaseUrl settings.baseUrl = .ok settings.baseUrl) : IsReadFrom again settings where
  baseUrl := by
    rw [hagain .baseUrl (by decide)]
    exact hbase
  user := by
    rw [hagain .user (by decide)]
    rfl
  user_not_blank s hs := by
    rw [hagain .user (by decide)] at hs
    rw [← Option.some.inj hs]
    exact h.user_fits
  password := by
    rw [hagain .password (by decide)]
    show settings.password = settings.password.filter _
    rw [h.password, Option.filter_filter]
    simp
  bearerToken := by
    rw [hagain .bearerToken (by decide)]
    show settings.bearerToken = settings.bearerToken.filter _
    rw [h.bearerToken, Option.filter_filter]
    simp
  bearerTokenFile := (hagain .bearerTokenFile (by decide)).symm
  file_not_blank s hs := by
    rw [hagain .bearerTokenFile (by decide)] at hs
    exact h.file_not_blank s (h.bearerTokenFile.symm.trans hs)
  timeout := by
    rw [hagain .timeout (by decide), value?]
    cases hms : settings.timeoutMs with
    | none => rfl
    | some ms =>
      show some <$> readTimeout _ = _
      rw [readTimeout_digits (h.timeout_positive hms)]
      rfl
  suiteName := by
    rw [hagain .suite (by decide)]
    rfl
  suite_not_blank s hs := by
    rw [hagain .suite (by decide)] at hs
    rw [← Option.some.inj hs]
    exact h.suite_fits

/-- Where the address is refused, the settings are. -/
theorem read_of_refused (hagain : settings.IsWrittenIn again)
    (hbase : readBaseUrl settings.baseUrl = .error (.invalidBaseUrl settings.baseUrl)) :
    Settings.read again = .error (.invalidBaseUrl settings.baseUrl) := by
  have hvalue : again Variable.baseUrl.name = some settings.baseUrl := hagain .baseUrl (by decide)
  unfold Settings.read
  dsimp only
  rw [hvalue, Option.getD_some, hbase]
  rfl

theorem prefix_of_isWeb (hweb : home.IsWeb a host) :
    "http://".toList <+: home.write ∨ "https://".toList <+: home.write := by
  rw [hweb.write_eq]
  rcases Url.scheme_cases hweb.http with hscheme | hscheme
  · rw [hscheme]
    exact .inl ⟨a.write ++ '/' :: home.tail, rfl⟩
  · rw [hscheme]
    exact .inr ⟨a.write ++ '/' :: home.tail, rfl⟩

/-- The address of settings starts like one of the web, has a host and ends in a slash. What is read
of settings that are written back are the same settings, unless a label of that host is too long to
be read: then their address is refused. -/
theorem read_again (h : Settings.read lookup = .ok settings) (hagain : settings.IsWrittenIn again) :
    ("http://".toList <+: settings.baseUrl.toList ∨
      "https://".toList <+: settings.baseUrl.toList) ∧
    settings.baseUrl.toList.getLast? = some '/' ∧
    ∃ home a host rest, Url.parse (baseValue lookup) = .ok home ∧ home.authority = some a ∧
      a.host = some host ∧ host.write ≠ [] ∧
      settings.baseUrl.toList = Url.front home.scheme a.write ++ '/' :: rest ∧
      Settings.read again =
        if host.IsReadable then .ok settings else .error (.invalidBaseUrl settings.baseUrl) := by
  obtain ⟨home, a, host, hparse, hweb, hbase⟩ := read_baseUrl h
  -- The text with a slash is that of an address with the same authority, so it is read as one.
  obtain ⟨slashed, hslashed, hscheme, hwrite⟩ := hweb.exists_withSlash
  have hlast : slashed.write.getLast? = some '/' := by
    rw [hwrite]
    exact getLast?_withSlash home.write
  rw [← hwrite] at hbase
  have htext : settings.baseUrl.toList = slashed.write := by rw [hbase, String.toList_ofList]
  have hagainBase := readBaseUrl_write hslashed hlast
  rw [← hbase] at hagainBase
  obtain ⟨t, ht⟩ := hweb.authority.host_read
  rw [htext]
  refine ⟨prefix_of_isWeb hslashed, hlast, home, a, host, slashed.tail, hparse, hweb.authority_eq,
    hweb.authority.host_eq, (Host.isWritten ht).ne_nil, ?_, ?_⟩
  · rw [hslashed.write_eq, hscheme]
  · by_cases hreadable : host.IsReadable
    · rw [if_pos hreadable] at hagainBase
      rw [if_pos hreadable]
      exact read_eq_ok_iff.2 ((read_eq_ok_iff.1 h).written_back hagain hagainBase)
    · rw [if_neg hreadable] at hagainBase
      rw [if_neg hreadable]
      exact read_of_refused hagain hagainBase

/-- Variables that are not written as settings are. -/
def untidy (name : String) : Option String :=
  if name = Variable.baseUrl.name then some " HTTP://[::1]:80/a/../b?q "
  else if name = Variable.systemUser.name then some " alice"
  else if name = Variable.timeout.name then some "+0250"
  else if name = Variable.password.name then some ""
  else none

/-- The variables change when they are read, and the settings do not change any more. -/
theorem read_again_of_untidy :
    ∃ settings : Settings, settings.baseUrl = "http://[::1]/b?q/" ∧ settings.user = " alice" ∧
      settings.timeoutMs = some 250 ∧ settings.password = none ∧
      Settings.read untidy = .ok settings ∧ Settings.read settings.written = .ok settings := by
  let settings : Settings :=
    { standard with baseUrl := "http://[::1]/b?q/", user := " alice", timeoutMs := some 250 }
  have hread : Settings.read untidy = .ok settings := by decide +kernel
  have hloopback : (Url.parse (baseValue untidy)).map Url.host? = .ok (some loopback) := by
    decide +kernel
  obtain ⟨home, a, host, rest, hparse, ha, hhost, -, -, hagain⟩ :=
    (read_again hread (isWrittenIn_written settings)).2.2
  have hsame : home.host? = some host := by
    rw [Url.host?, ha]
    exact hhost
  rw [hparse, Except.map, hsame] at hloopback
  obtain rfl := Option.some.inj (Except.ok.inj hloopback)
  exact ⟨settings, rfl, rfl, rfl, rfl, hread, hagain⟩

/-- An address that is accepted once, and refused when its settings are written back. -/
theorem read_again_fails :
    ∃ settings, Settings.read (named (String.ofList longAddress)) = .ok settings ∧
      settings.IsWrittenIn settings.written ∧
      Settings.read settings.written = .error (.invalidBaseUrl settings.baseUrl) := by
  obtain ⟨home, a, hparse, hweb⟩ := parse_longAddress
  obtain ⟨slashed, hslashed, -, hwrite⟩ := hweb.exists_withSlash
  have htrim : trimBlanks (String.ofList longAddress) = String.ofList longAddress :=
    trimBlanks_front longLabel
  have hread : Url.parse (trimBlanks (String.ofList longAddress)) = .ok home := by
    rw [htrim, Url.parse, String.toList_ofList, hparse]
  have hbase : readBaseUrl (String.ofList longAddress) = .ok (String.ofList slashed.write) :=
    readBaseUrl_eq_ok_iff.2 ⟨home, hread, Url.scheme_cases hweb.http, by rw [hwrite]⟩
  have hrefused := readBaseUrl_write hslashed (hwrite ▸ getLast?_withSlash home.write)
  rw [if_neg not_isReadable_longLabel] at hrefused
  exact ⟨_, read_named hbase, isWrittenIn_written _,
    read_of_refused (isWrittenIn_written _) hrefused⟩

end Settings

end RestConformance
