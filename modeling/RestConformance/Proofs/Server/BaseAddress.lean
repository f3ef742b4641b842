import RestConformance.Http.Request
import RestConformance.Proofs.Settings.Reading
import RestConformance.Proofs.Url.Web

/-!
# The address of the server

What settings say of the address of the server, and what the addresses of paths on it look like.

## Main definitions

* `Settings.baseValue lookup` – the text that the address of the server is read from;
* `Settings.named address` – variables that only name a server;
* `Url.stem home` – what comes before the path of a request, behind the front of the address.

## Main results

* `Settings.read_baseUrl` – the address of settings is the text of an address of the web with a
  slash at its end;
* `Settings.resolvePath_eq` – the address of a path is the front of that text, its stem, a slash and
  the path;
* `Settings.parse_resolvePath` – when such an address can be read, and what is read then.
-/

namespace RestConformance

namespace Url

/-- What comes before the path of a request, behind scheme and authority of the server. -/
def stem (home : Url) : Text :=
  Text.trimRight Http.isSeparator ('/' :: home.tail)

/-- What is left of a text that starts with a slash starts with one as well, where a slash comes
behind it. -/
theorem exists_trimRight_append (w t : Text) :
    ∃ rest, Text.trimRight Http.isSeparator ('/' :: w) ++ '/' :: t = '/' :: rest := by
  obtain ⟨cut, hcut⟩ := List.rdropWhile_prefix Http.isSeparator ('/' :: w)
  have hwhole : Text.trimRight Http.isSeparator ('/' :: w) ++ cut = '/' :: w := hcut
  cases hchars : Text.trimRight Http.isSeparator ('/' :: w) with
  | nil => exact ⟨t, rfl⟩
  | cons c more =>
    rw [hchars] at hwhole
    rw [(List.cons.inj hwhole).1]
    exact ⟨more ++ '/' :: t, rfl⟩

/-- A front ends in a character of its authority. -/
theorem front_eq_append_singleton {scheme : Scheme} {a : Authority} {host : Host}
    (h : a.IsRead scheme host) :
    ∃ before c, front scheme a.write = before ++ [c] ∧ Http.isSeparator c = false := by
  have hsome : a.write ≠ [] := List.append_ne_nil_of_right_ne_nil _ (writeHost_ne_nil h)
  have hslash : a.write.getLast hsome ≠ '/' :=
    (isInner_write h (List.getLast_mem hsome)).2.1
  refine ⟨front scheme a.write.dropLast, a.write.getLast hsome, ?_, beq_eq_false_iff_ne.2 hslash⟩
  rw [front, front, List.append_assoc]
  conv => lhs; rw [← List.dropLast_concat_getLast hsome]
  rfl

end Url

namespace Settings

open Url (Authority Host)

variable {lookup : String → Option String} {settings : Settings} {home : Url} {a : Authority}
  {host : Host}

/-- The text that the address of the server is read from. -/
def baseValue (lookup : String → Option String) : String :=
  trimBlanks ((lookup Variable.baseUrl.name).getD standard.baseUrl)

/-- The address of settings is the text of an address of the web with a slash at its end. -/
theorem read_baseUrl (h : Settings.read lookup = .ok settings) :
    ∃ home a host, Url.parse (baseValue lookup) = .ok home ∧ home.IsWeb a host ∧
      settings.baseUrl = String.ofList (withSlash home.write) := by
  obtain ⟨home, hparse, hscheme, hbase⟩ :=
    readBaseUrl_eq_ok_iff.1 (read_eq_ok_iff.1 h).baseUrl
  obtain ⟨a, host, hweb⟩ := Url.isWeb_of_parseText hparse (Url.isHttp_iff.2 hscheme)
  exact ⟨home, a, host, hparse, hweb, hbase⟩

/-- The host `[::1]`. -/
def loopback : Url.Host :=
  .ipv6 ⟨[0, 0, 0, 0, 0, 0, 0, 1], rfl⟩

/-- Variables that name a server by its address, and nothing else. -/
def named (address : String) (name : String) : Option String :=
  if name = Variable.baseUrl.name then some address else none

theorem read_named {address base : String} (h : readBaseUrl address = .ok base) :
    Settings.read (named address) = .ok { standard with baseUrl := base } := by
  have hvalue : named address Variable.baseUrl.name = some address := if_pos rfl
  unfold Settings.read
  dsimp only
  rw [hvalue, Option.getD_some, h]
  rfl

/-! ### Addresses of paths -/

section Resolving

variable (hweb : home.IsWeb a host)

include hweb

/-- The address of a path is the front of the address of the server, its stem, a slash and the
path. -/
theorem resolvePath_eq (hbase : settings.baseUrl = String.ofList (withSlash home.write))
    (path : String) :
    Http.resolvePath settings.baseUrl path = String.ofList (Url.front home.scheme a.write ++
      (home.stem ++ '/' :: Text.trimLeft Http.isSeparator path.toList)) := by
  have htrim : Text.trimRight Http.isSeparator (withSlash home.write) =
      Url.front home.scheme a.write ++ home.stem := by
    rw [withSlash, hweb.write_eq]
    split
    · exact Text.trimRight_append (Url.front_eq_append_singleton hweb.authority) _
    · refine (List.rdropWhile_concat_pos Http.isSeparator _ '/' rfl).trans ?_
      exact Text.trimRight_append (Url.front_eq_append_singleton hweb.authority) _
  rw [Http.resolvePath, Http.resolvePathText, hbase, String.toList_ofList, htrim, List.append_assoc]

/-- What the address of a path is read as. -/
theorem parse_resolvePath (hbase : settings.baseUrl = String.ofList (withSlash home.write))
    (path : String) :
    ∃ rest, home.stem ++ '/' :: Text.trimLeft Http.isSeparator path.toList = '/' :: rest ∧
      Url.parse (Http.resolvePath settings.baseUrl path) =
        if host.IsReadable then .ok (Url.onServer home.scheme a rest)
        else .error .invalidDomain := by
  have hcons : ∃ rest, home.stem ++ '/' :: Text.trimLeft Http.isSeparator path.toList =
      '/' :: rest := Url.exists_trimRight_append home.tail _
  obtain ⟨rest, hrest⟩ := hcons
  refine ⟨rest, hrest, ?_⟩
  rw [resolvePath_eq hweb hbase, Url.parse, String.toList_ofList, hrest]
  exact Url.parseText_write hweb.http hweb.authority rest

theorem parse_baseUrl (hbase : settings.baseUrl = String.ofList (withSlash home.write)) :
    ∃ rest, Url.parse settings.baseUrl =
      if host.IsReadable then .ok (Url.onServer home.scheme a rest)
      else .error .invalidDomain := by
  have htext : ∃ rest, withSlash home.write = Url.front home.scheme a.write ++ '/' :: rest := by
    rw [withSlash, hweb.write_eq]
    split
    · exact ⟨home.tail, rfl⟩
    · exact ⟨home.tail ++ ['/'], List.append_assoc _ _ _⟩
  obtain ⟨rest, hrest⟩ := htext
  refine ⟨rest, ?_⟩
  rw [hbase, Url.parse, String.toList_ofList, hrest]
  exact Url.parseText_write hweb.http hweb.authority rest

end Resolving

end Settings

end RestConformance
