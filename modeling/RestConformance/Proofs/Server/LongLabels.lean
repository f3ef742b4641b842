import RestConformance.Http.Request
import RestConformance.Proofs.Server.SameServer
import RestConformance.Proofs.Url.Ideographs

/-!
# Labels that are written and not read

An international label is limited by its readable form when it is written, and by its Punycode when
it is read. Between the two there is a server whose address is accepted once and never again.

## Main definitions

* `longLabel` – 700 ideographs whose Punycode takes more than 2000 characters;
* `Settings.longAddress` – an address whose host is that label.

## Main results

* `Settings.long_label_shuts_out` – all requests to that server are refused.
-/

namespace RestConformance

open Idna (IsIdeographic acePrefix)
open Punycode (encode)

/-- Every thirtieth of the unified ideographs. -/
def longLabel : Text :=
  (List.range 700).map fun i => Char.ofNat (0x4E00 + 30 * i)

theorem toNat_of_lt {i : Nat} (h : i < 700) :
    (Char.ofNat (0x4E00 + 30 * i)).toNat = 0x4E00 + 30 * i :=
  Idna.toNat_ofNat (.inl (by omega))

theorem pairwise_longLabel : longLabel.Pairwise fun c d => c.toNat + 30 ≤ d.toNat := by
  refine List.pairwise_map.2 (List.pairwise_lt_range.imp_of_mem fun hi hj hlt => ?_)
  rw [toNat_of_lt (List.mem_range.1 hi), toNat_of_lt (List.mem_range.1 hj)]
  omega

theorem isIdeographic_longLabel : IsIdeographic longLabel where
  ne_nil := fun hnone => by
    have hlength := congrArg List.length hnone
    rw [longLabel, List.length_map, List.length_range] at hlength
    exact absurd hlength (by decide)
  ideographs := fun c hc => by
    obtain ⟨i, hi, rfl⟩ := List.mem_map.1 hc
    have hi := List.mem_range.1 hi
    rw [Idna.isIdeograph, toNat_of_lt hi, Bool.and_eq_true, decide_eq_true_eq, decide_eq_true_eq]
    omega
  pairwise := pairwise_longLabel.imp fun h => by omega
  length_le := by
    rw [longLabel, List.length_map, List.length_range]
    decide

/-- The Punycode of the label is too long to be read. -/
theorem length_encode_longLabel : Idna.longestPunycode < (encode longLabel).length := by
  have hideographic := isIdeographic_longLabel
  have hfirst : ∀ c ∈ longLabel, 0x80 + 30 ≤ c.toNat := fun c hc => by
    have hlow := (Idna.toNat_of_isIdeograph (hideographic.ideographs c hc)).1
    omega
  have hlength :=
    Punycode.length_encode_ascending hideographic.isAscending hfirst pairwise_longLabel
  have hcount : longLabel.length = 700 := by rw [longLabel, List.length_map, List.length_range]
  -- Three digits for each of 700 characters, less 90.
  rw [hcount] at hlength
  show 2000 < _
  omega

theorem Idna.isReadable_acePrefix {code : Text} :
    IsReadable (acePrefix ++ code) ↔ code.length ≤ longestPunycode :=
  ⟨fun h => h rfl, fun h _ => h⟩

theorem not_isReadable_longLabel :
    ¬(Url.Host.name (acePrefix ++ encode longLabel)).IsReadable := by
  intro hreadable
  have hsplit := Text.splitAll_of_notMem (Idna.notMem_encode_ideographic isIdeographic_longLabel)
  have hlabel : Idna.IsReadable (acePrefix ++ encode longLabel) := by
    refine hreadable _ ?_
    rw [hsplit]
    exact List.mem_cons_self
  exact absurd length_encode_longLabel (Nat.not_lt.2 (Idna.isReadable_acePrefix.1 hlabel))

namespace Settings

/-- The text of an address whose host is that label. -/
def longAddress : Text :=
  Url.front .http longLabel ++ ['/']

/-- The address is read: the readable form of its label is not too long. -/
theorem parse_longAddress : ∃ home a, Url.parseText longAddress = .ok home ∧
    home.IsWeb a (.name (acePrefix ++ encode longLabel)) := by
  have hinner : ∀ c ∈ longLabel, Url.IsInner c := fun c hc => by
    have hc := isIdeographic_longLabel.ideographs c hc
    have hlow := (Idna.toNat_of_isIdeograph hc).1
    exact Url.isInner_of_kind (Idna.isIdeograph · = true) (by omega) hc (by decide)
  have hparse := @Url.parseText_front .http longLabel rfl hinner isIdeographic_longLabel.ne_nil []
  rw [Url.readAuthority_ideographic rfl true isIdeographic_longLabel] at hparse
  obtain ⟨a, host, hweb⟩ := Url.isWeb_of_parseText hparse rfl
  have hhost := hweb.authority.host_eq
  rw [← Option.some.inj hweb.authority_eq] at hhost
  obtain rfl := Option.some.inj hhost
  exact ⟨_, a, hparse, hweb⟩

/-- There are no blanks around an address that ends in a slash. -/
theorem trimBlanks_front (place : Text) :
    trimBlanks (String.ofList (Url.front .http place ++ ['/'])) =
      String.ofList (Url.front .http place ++ ['/']) := by
  refine trimBlanks_of_isTrimmed (by simp) ⟨?_, fun c hc => ?_⟩
  · rintro c ⟨⟩
    rfl
  · rw [List.getLast?_concat] at hc
    obtain rfl := Option.some.inj hc
    rfl

/-- That address is accepted, and then the requests of all paths are refused: what is kept of the
address cannot be read. -/
theorem long_label_shuts_out :
    ∃ settings, Settings.read (named (String.ofList longAddress)) = .ok settings ∧
      ∀ method path body,
        Http.Request.check ⟨method, Http.resolvePath settings.baseUrl path, body⟩ =
          .error (.unreadableUrl .invalidDomain (Http.resolvePath settings.baseUrl path)) := by
  obtain ⟨home, a, hparse, hweb⟩ := parse_longAddress
  have htrim : trimBlanks (String.ofList longAddress) = String.ofList longAddress :=
    trimBlanks_front longLabel
  have hbase : readBaseUrl (String.ofList longAddress) =
      .ok (String.ofList (withSlash home.write)) := by
    rw [readBaseUrl, htrim, Url.parse, String.toList_ofList, hparse]
    exact if_pos hweb.http
  refine ⟨_, read_named hbase, fun method path body => ?_⟩
  rw [check_resolvePath hweb rfl, if_neg not_isReadable_longLabel]

end Settings

end RestConformance
