import RestConformance.Proofs.Server.BelowBase
import RestConformance.Proofs.Url.Names
import RestConformance.Suite.FixtureClient

/-!
# Addresses of links

Links are saved at one address, and a link is dropped and asked for at an address below it, which
its name is put into as it stands. That address names the link exactly if nothing in the name means
something in an address; other names lead to other resources, some of them to those of other links.

## Main results

* `RestFixtureClient.link_addresses` – where the requests for links go, and which names they reach;
* `RestFixtureClient.dotted_name_reaches_another` – two names with one address.
-/

namespace RestConformance.RestFixtureClient

open Settings (baseValue named IsOrdinary IsBelow)
open Url (Authority EndsInName Host NamesItself)

variable {lookup : String → Option String} {settings : Settings} {home : Url} {a : Authority}
  {host : Host}

/-- The path of the resource of all links. -/
theorem isOrdinary_links : IsOrdinary "v1/link" "v1/link".toList none :=
  ⟨by decide +kernel, by decide +kernel, nofun⟩

section Below

variable (hweb : home.IsWeb a host)
  (hbase : settings.baseUrl = String.ofList (Settings.withSlash home.write))
  (hquery : home.query = none) (hfragment : home.fragment = none)

include hweb hbase hquery hfragment

/-- What the address of a path is read as, if that of the server is a path and nothing else. -/
theorem parse_below {path : String} {rest : Text}
    (hrest : Text.trimRight Http.isSeparator home.path.write ++
      '/' :: Text.trimLeft Http.isSeparator path.toList = '/' :: rest) :
    Url.parse (Http.resolvePath settings.baseUrl path) =
      if host.IsReadable then .ok (Url.onServer home.scheme a rest)
      else .error .invalidDomain := by
  obtain ⟨found, hfound, hparse⟩ := Settings.parse_resolvePath hweb hbase path
  rw [Settings.stem_of_path hweb hquery hfragment, hrest] at hfound
  rw [hparse, (List.cons.inj hfound).2]

/-- The address that links are saved at, and the addresses of single links. -/
theorem parse_requests : ∃ rest, (∀ s ∈ Text.splitAll '/' rest, Url.IsSettled s) ∧
    Text.trimRight Http.isSeparator home.path.write ++ '/' :: "v1/link".toList = '/' :: rest ∧
    (∀ link, Url.parse (saveRequest settings.baseUrl link).url =
      if host.IsReadable then .ok (Url.onServer home.scheme a rest)
      else .error .invalidDomain) ∧
    ∀ name, Url.parse (deleteRequest settings.baseUrl name).url =
      if host.IsReadable then .ok (Url.onServer home.scheme a (rest ++ '/' :: name.toList))
      else .error .invalidDomain := by
  obtain ⟨rest, hrest, hsettled⟩ := isOrdinary_links.segments_below hweb
  refine ⟨rest, hsettled, hrest, fun _ => parse_below hweb hbase hquery hfragment hrest,
    fun name => parse_below hweb hbase hquery hfragment ?_⟩
  have hname : Text.trimLeft Http.isSeparator ("v1/link/" ++ name).toList =
      Text.trimLeft Http.isSeparator "v1/link".toList ++ '/' :: name.toList := by
    rw [String.toList_append]
    rfl
  rw [hname, ← List.cons_append, ← List.append_assoc, hrest]
  rfl

end Below

/-- The requests for links reach the server of the settings, if that can be read. All links are
saved at one address, and a link is dropped and asked for below it. The segment there stands for the
name of the link exactly if the name names itself, and then no other such name has its address. -/
theorem link_addresses (h : Settings.read lookup = .ok settings) :
    ∃ home host, Url.parse (baseValue lookup) = .ok home ∧ home.host? = some host ∧
      (home.query = none → home.fragment = none →
        if host.IsReadable then
          ∃ links, IsBelow home "v1/link".toList none links ∧
            links.scheme = home.scheme ∧ links.authority = home.authority ∧
            (∀ link, Url.parse (saveRequest settings.baseUrl link).url = .ok links) ∧
            ∀ name, ∃ url, Url.parse (deleteRequest settings.baseUrl name).url = .ok url ∧
              Url.parse (containsRequest settings.baseUrl name).url = .ok url ∧
              url.scheme = home.scheme ∧ url.authority = home.authority ∧
              (EndsInName links.path.write name.toList url ↔ NamesItself name.toList) ∧
              (NamesItself name.toList → ∀ other, NamesItself other.toList →
                Url.parse (deleteRequest settings.baseUrl other).url = .ok url → other = name)
        else
          ∀ link name, Url.parse (saveRequest settings.baseUrl link).url = .error .invalidDomain ∧
            Url.parse (deleteRequest settings.baseUrl name).url = .error .invalidDomain ∧
            Url.parse (containsRequest settings.baseUrl name).url = .error .invalidDomain) := by
  obtain ⟨home, a, host, hparse, hweb, hbase⟩ := Settings.read_baseUrl h
  refine ⟨home, host, hparse, hweb.host?_eq, fun hquery hfragment => ?_⟩
  obtain ⟨rest, hsettled, hrest, hsave, hdelete⟩ :=
    parse_requests hweb hbase hquery hfragment
  by_cases hreadable : host.IsReadable
  · simp only [if_pos hreadable] at hsave hdelete ⊢
    have htail : Url.IsTail rest none none := ⟨hsettled, nofun, nofun⟩
    obtain ⟨hpath, hnoQuery, hnoFragment⟩ := Url.onServer_tail hweb.http a htail
    simp only [Url.writeQuery, Url.writeFragment, List.append_nil] at hpath hnoQuery hnoFragment
    have hname := fun name : Text => Url.endsInName_iff hweb.http hsettled a name
    refine ⟨_, ⟨hpath.trans hrest.symm, hnoQuery, hnoFragment⟩, rfl, hweb.authority_eq.symm, hsave,
      fun name => ⟨_, hdelete name, hdelete name, rfl, hweb.authority_eq.symm, ?_, ?_⟩⟩
    · rw [hpath]
      exact hname name.toList
    · -- Each of the two names is the one that the address ends in.
      intro hown other hother hsame
      have hurl := Except.ok.inj ((hdelete other).symm.trans hsame)
      have hends := (hname other.toList).2 hother
      rw [hurl] at hends
      exact String.toList_inj.1 (hends.name_eq ((hname name.toList).2 hown))
  · simp only [if_neg hreadable] at hsave hdelete ⊢
    exact fun link name => ⟨hsave link, hdelete name, hdelete name⟩

theorem readBaseUrl_loopback :
    Settings.readBaseUrl "http://[::1]/base/" = .ok "http://[::1]/base/" := by
  decide +kernel

theorem parse_loopback : Url.parse (baseValue (named "http://[::1]/base/")) =
    .ok (Settings.loopbackAt ["base".toList, []] none) := by
  decide +kernel

/-- A name with a space and a letter beyond ASCII names itself. -/
theorem link_addresses_of_spaced_name :
    ∃ settings, Settings.read (named "http://[::1]/base/") = .ok settings ∧
      ∃ url, Url.parse (deleteRequest settings.baseUrl "my lïnk").url = .ok url ∧
        Url.parse (containsRequest settings.baseUrl "my lïnk").url = .ok url ∧
        EndsInName "/base/v1/link".toList "my lïnk".toList url := by
  have hread := Settings.read_named readBaseUrl_loopback
  refine ⟨_, hread, ?_⟩
  obtain ⟨home, host, hhome, hhost, haddresses⟩ := link_addresses hread
  rw [parse_loopback] at hhome
  obtain rfl := Except.ok.inj hhome
  have hreadable : host.IsReadable := by
    rw [← Option.some.inj hhost]
    trivial
  have haddresses := haddresses rfl rfl
  rw [if_pos hreadable] at haddresses
  obtain ⟨links, hbelow, -, -, -, hnames⟩ := haddresses
  obtain ⟨url, hdelete, hcontains, -, -, hiff, -⟩ := hnames "my lïnk"
  have hlinks : links.path.write = "/base/v1/link".toList := hbelow.path.trans (by decide +kernel)
  rw [hlinks] at hiff
  exact ⟨url, hdelete, hcontains, hiff.2 (by decide +kernel)⟩

/-- A name with a dot segment in it has the address of another link, and does not stand there. -/
theorem dotted_name_reaches_another :
    Url.parse (baseValue (named "http://[::1]/base/")) =
        .ok (Settings.loopbackAt ["base".toList, []] none) ∧
      ∃ settings, Settings.read (named "http://[::1]/base/") = .ok settings ∧
        ∃ url, Url.parse (deleteRequest settings.baseUrl "old/../first-link").url = .ok url ∧
          Url.parse (deleteRequest settings.baseUrl "first-link").url = .ok url ∧
          ¬EndsInName "/base/v1/link".toList "old/../first-link".toList url := by
  refine ⟨parse_loopback, _, Settings.read_named readBaseUrl_loopback,
    Settings.loopbackAt ["base".toList, "v1".toList, "link".toList, "first-link".toList] none,
    by decide +kernel, by decide +kernel, fun hends => ?_⟩
  have hfirst : EndsInName "/base/v1/link".toList "first-link".toList
      (Settings.loopbackAt ["base".toList, "v1".toList, "link".toList, "first-link".toList] none) :=
    ⟨⟨"first-link".toList, by decide +kernel, by decide +kernel, by decide +kernel⟩, rfl, rfl⟩
  exact absurd (hends.name_eq hfirst) (by decide +kernel)

end RestConformance.RestFixtureClient
