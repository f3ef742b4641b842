import RestConformance.Proofs.Server.BaseAddress
import RestConformance.Proofs.Server.PathJoining

/-!
# Requests stay on the server

A path is only put behind the address of the server as text, and read again with it. Whatever the
path holds, the two are read with the scheme, the user, the host and the port of the server, or no
request is sent.

## Main results

* `Settings.check_resolvePath` – when the request of a path may be sent;
* `Settings.requests_stay_on_server` – where the requests of all paths go.
-/

namespace RestConformance.Settings

open Url (Authority Host)

variable {lookup : String → Option String} {settings : Settings} {home : Url} {a : Authority}
  {host : Host}

/-- The request of a path may be sent where the host of the server is readable, and nowhere
else. -/
theorem check_resolvePath (hweb : home.IsWeb a host)
    (hbase : settings.baseUrl = String.ofList (withSlash home.write)) (method : Http.Method)
    (path : String) (body : Option Bytes) :
    Http.Request.check ⟨method, Http.resolvePath settings.baseUrl path, body⟩ =
      if host.IsReadable then .ok ()
      else .error (.unreadableUrl .invalidDomain (Http.resolvePath settings.baseUrl path)) := by
  obtain ⟨rest, -, hparse⟩ := parse_resolvePath hweb hbase path
  unfold Http.Request.check
  dsimp only
  rw [Http.isBlankString_resolvePath, if_neg Bool.false_ne_true, hparse]
  by_cases hreadable : host.IsReadable
  · rw [if_pos hreadable, if_pos hreadable]
    exact if_pos hweb.http
  · rw [if_neg hreadable, if_neg hreadable]

/-- The requests of all paths go to the server with its scheme, its user, its host and its port. An
international name whose labels are too long to be read once written is the one exception: with it
neither the address of the server nor that of any path can be read, and no request is sent. -/
theorem requests_stay_on_server (h : Settings.read lookup = .ok settings) :
    ∃ home host, Url.parse (baseValue lookup) = .ok home ∧ home.host? = some host ∧
      ∀ method path body,
        let request : Http.Request := ⟨method, Http.resolvePath settings.baseUrl path, body⟩
        if host.IsReadable then
          request.check = .ok () ∧
            ∃ base url, Url.parse settings.baseUrl = .ok base ∧ Url.parse request.url = .ok url ∧
              url.scheme = base.scheme ∧ url.authority = base.authority ∧
              base.scheme = home.scheme ∧ base.authority = home.authority
        else
          request.check = .error (.unreadableUrl .invalidDomain request.url) ∧
            Url.parse settings.baseUrl = .error .invalidDomain ∧
            Url.parse request.url = .error .invalidDomain := by
  obtain ⟨home, a, host, hparse, hweb, hbase⟩ := read_baseUrl h
  refine ⟨home, host, hparse, hweb.host?_eq, fun method path body => ?_⟩
  dsimp only
  have hcheck := check_resolvePath hweb hbase method path body
  obtain ⟨rest, -, hpath⟩ := parse_resolvePath hweb hbase path
  obtain ⟨baseRest, hown⟩ := parse_baseUrl hweb hbase
  by_cases hreadable : host.IsReadable
  · rw [if_pos hreadable] at hcheck hpath hown ⊢
    refine ⟨hcheck, _, _, hown, hpath, rfl, rfl, rfl, ?_⟩
    exact hweb.authority_eq.symm
  · rw [if_neg hreadable] at hcheck hpath hown ⊢
    exact ⟨hcheck, hown, hpath⟩

/-- The address of a user on this very machine. -/
def loopbackUser : Url where
  scheme := .http
  authority := some ⟨"alice".toList, none, some loopback, some 8080⟩
  path := .segments ["sqoop".toList]
  query := some ['x']
  fragment := none

/-- With that address even a path like `//@elsewhere/` stays on this machine. -/
theorem requests_stay_on_loopback :
    ∃ settings, Settings.read (named "http://alice@[::1]:8080/sqoop?x") = .ok settings ∧
      ∀ method path body,
        Http.Request.check ⟨method, Http.resolvePath settings.baseUrl path, body⟩ = .ok () ∧
          ∃ url, Url.parse (Http.resolvePath settings.baseUrl path) = .ok url ∧
            url.scheme = .http ∧ url.authority = loopbackUser.authority := by
  have hbase : readBaseUrl "http://alice@[::1]:8080/sqoop?x" =
      .ok "http://alice@[::1]:8080/sqoop?x/" := by
    decide +kernel
  have hparse : Url.parse (baseValue (named "http://alice@[::1]:8080/sqoop?x")) =
      .ok loopbackUser := by
    decide +kernel
  refine ⟨_, read_named hbase, fun method path body => ?_⟩
  obtain ⟨home, host, hhome, hhost, hall⟩ := requests_stay_on_server (read_named hbase)
  rw [hparse] at hhome
  obtain rfl := Except.ok.inj hhome
  have hreadable : host.IsReadable := by
    rw [← Option.some.inj hhost]
    trivial
  have h := hall method path body
  dsimp only at h
  rw [if_pos hreadable] at h
  obtain ⟨hcheck, base, url, -, hurl, hscheme, hauthority, hbase, hown⟩ := h
  exact ⟨hcheck, url, hurl, hscheme.trans hbase, hauthority.trans hown⟩

end RestConformance.Settings
