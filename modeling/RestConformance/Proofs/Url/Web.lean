import RestConformance.Proofs.Url.Front
import RestConformance.Proofs.Url.Path

/-!
# Addresses of the web

What is known of an address of the web that was read, and of its text.

## Main definitions

* `Url.IsWeb u a host` – an address of the web with its authority and its host;
* `Url.IsTail main query fragment` – what may stand in a text behind the first slash of a path;
* `Url.tail` – what stands there in the text of an address.

## Main results

* `Url.isWeb_of_parseText` – addresses of the web that are read are of that kind;
* `Url.onServer_tail` – path, query and fragment are read as they stand;
* `Url.IsWeb.write_eq` – their text is the front, a slash and the rest;
* `Url.IsWeb.parse_write` – their text is read as the same address, or not at all.
-/

namespace RestConformance.Url

variable {t : Text} {u : Url} {a : Authority} {host : Host}

/-- An address of the web with its authority and its host. -/
structure IsWeb (u : Url) (a : Authority) (host : Host) : Prop where
  http : u.scheme.isHttp = true
  authority_eq : u.authority = some a
  authority : a.IsRead u.scheme host
  path : ∃ segments, u.path = .segments segments ∧ segments ≠ [] ∧ ∀ s ∈ segments, IsSettled s
  query : ∀ q, u.query = some q → ∀ c ∈ q, Percent.specialQuery c = false
  fragment : ∀ f, u.fragment = some f → ∀ c ∈ f, Percent.fragment c = false

theorem IsWeb.host?_eq (h : u.IsWeb a host) : u.host? = some host := by
  rw [host?, h.authority_eq]
  exact h.authority.host_eq

theorem ne_file_of_isHttp {scheme : Scheme} (hhttp : scheme.isHttp = true) : scheme ≠ .file := by
  rintro rfl
  exact Bool.false_ne_true hhttp

/-! ### Reading -/

theorem readHierarchy_eq_ok {scheme : Scheme} (hhttp : scheme.isHttp = true) {followed : Bool}
    {path : Path} (h : readHierarchy scheme followed t = .ok (a, path)) :
    (∃ host, a.IsRead scheme host) ∧
      ∃ segments, path = .segments segments ∧ segments ≠ [] ∧ ∀ s ∈ segments, IsSettled s := by
  have hspecial := isSpecial_of_isHttp hhttp
  unfold readHierarchy at h
  dsimp only at h
  obtain ⟨found, hread, h⟩ := exists_of_bind_eq_ok h
  obtain ⟨rfl, rfl⟩ := Prod.mk.inj (Except.ok.inj h)
  exact ⟨(readAuthority_eq_ok hspecial hread).2,
    readPath_isSettled (ne_file_of_isHttp hhttp) hspecial _⟩

theorem readBody_eq_ok {scheme : Scheme} (hhttp : scheme.isHttp = true) {followed : Bool}
    {authority : Option Authority} {path : Path}
    (h : readBody scheme followed t = .ok (authority, path)) :
    ∃ a, authority = some a ∧
      readHierarchy scheme followed (t.dropWhile (isSlash true)) = .ok (a, path) := by
  have hbody : readBody scheme followed t =
      (readHierarchy scheme followed (t.dropWhile (isSlash true))).map
        fun found => (some found.1, found.2) := by
    rcases scheme_cases hhttp with rfl | rfl <;> rfl
  rw [hbody] at h
  obtain ⟨found, hread, hfound⟩ := exists_of_map_eq_ok h
  obtain ⟨rfl, rfl⟩ := Prod.mk.inj hfound
  exact ⟨found.1, rfl, hread⟩

/-- Addresses of the web that are read have a host and settled segments, and their other parts are
encoded. -/
theorem isWeb_of_parseText (h : parseText t = .ok u) (hhttp : u.scheme.isHttp = true) :
    ∃ a host, u.IsWeb a host := by
  unfold parseText at h
  split at h
  next main query fragment _ =>
  split at h
  · cases h
  next scheme rest _ =>
  obtain ⟨found, hbody, h⟩ := exists_of_bind_eq_ok h
  obtain rfl := Except.ok.inj h
  obtain ⟨a, ha, hhierarchy⟩ := readBody_eq_ok hhttp hbody
  obtain ⟨⟨host, hread⟩, hpath⟩ := readHierarchy_eq_ok hhttp hhierarchy
  refine ⟨a, host, hhttp, ha, hread, hpath, fun q hq c hc => ?_, fun f hf c hc => ?_⟩
  · obtain ⟨raw, -, rfl⟩ := Option.map_eq_some_iff.1 hq
    rw [encodeQuery, if_pos (isSpecial_of_isHttp hhttp)] at hc
    exact Percent.not_mem_set_of_mem_encode Percent.spares_specialQuery hc
  · obtain ⟨raw, -, rfl⟩ := Option.map_eq_some_iff.1 hf
    exact Percent.not_mem_set_of_mem_encode Percent.spares_fragment hc

/-- A path of settled segments, a query and a fragment as they may stand in a text. -/
structure IsTail (main : Text) (query fragment : Option Text) : Prop where
  segments : ∀ s ∈ Text.splitAll '/' main, IsSettled s
  query : ∀ q, query = some q → ∀ c ∈ q, 0x20 < c.toNat ∧ c ≠ '#'
  fragment : ∀ f, fragment = some f → ∀ c ∈ f, 0x20 < c.toNat

theorem IsTail.visible {main : Text} {query fragment : Option Text}
    (h : IsTail main query fragment) :
    ∀ c ∈ main ++ writeQuery query ++ writeFragment fragment, 0x20 < c.toNat := by
  intro c hc
  rw [List.mem_append, List.mem_append] at hc
  rcases hc with (hmain | hquery) | hfragment
  · exact Percent.visible_of_fragment
      (Percent.fragment_of_path (mem_of_isSettled h.segments hmain).1)
  · cases query with
    | none => exact absurd hquery List.not_mem_nil
    | some q =>
      rcases List.mem_cons.1 hquery with rfl | hq
      · decide
      · exact (h.query q rfl c hq).1
  · cases fragment with
    | none => exact absurd hfragment List.not_mem_nil
    | some f =>
      rcases List.mem_cons.1 hfragment with rfl | hf
      · decide
      · exact h.fragment f rfl c hf

/-- Each of the three is read as it stands, or encoded. -/
theorem onServer_tail {scheme : Scheme} (hhttp : scheme.isHttp = true) (a : Authority) {main : Text}
    {query fragment : Option Text} (h : IsTail main query fragment) :
    let u := onServer scheme a (main ++ writeQuery query ++ writeFragment fragment)
    u.path.write = '/' :: main ∧ u.query = query.map (encodeQuery scheme) ∧
      u.fragment = fragment.map encodeFragment := by
  have hmain : '?' ∉ main ∧ '#' ∉ main := by
    refine ⟨fun hmem => ?_, fun hmem => ?_⟩ <;>
      exact absurd (mem_of_isSettled h.segments hmem).1 (by decide)
  have hcut : cutParts (main ++ writeQuery query ++ writeFragment fragment) =
      (main, query, fragment) :=
    cutParts_write hmain fun q hq hmem => (h.query q hq _ hmem).2 rfl
  dsimp only
  rw [onServer, behind_of_visible h.visible, hcut]
  exact ⟨readPath_write (ne_file_of_isHttp hhttp) (isSpecial_of_isHttp hhttp) h.segments, rfl, rfl⟩

/-! ### Writing -/

/-- What stands in the text of an address behind the first slash of its path. -/
def tail (u : Url) : Text :=
  u.path.write.drop 1 ++ writeQuery u.query ++ writeFragment u.fragment

/-- The path of an address of the web starts with a slash, and what comes behind it is settled. -/
theorem IsWeb.write_path (h : u.IsWeb a host) : u.path.write = '/' :: u.path.write.drop 1 ∧
    ∀ s ∈ Text.splitAll '/' (u.path.write.drop 1), IsSettled s := by
  obtain ⟨segments, hpath, hsome, hsettled⟩ := h.path
  have hwrite : u.path.write = '/' :: Text.join ['/'] segments := by
    rw [hpath, Path.write, flatMap_slash hsome]
  have hslash : ∀ s ∈ segments, '/' ∉ s := fun s hs hc => ((hsettled s hs).chars _ hc).2.1 rfl
  rw [hwrite]
  refine ⟨rfl, ?_⟩
  show ∀ s ∈ Text.splitAll '/' (Text.join ['/'] segments), IsSettled s
  rw [Text.splitAll_join hsome hslash]
  exact hsettled

/-- The text of an address of the web is its front, a slash and the rest. -/
theorem IsWeb.write_eq (h : u.IsWeb a host) :
    u.write = front u.scheme a.write ++ '/' :: u.tail := by
  have hfront : u.writeFront = front u.scheme a.write ++ u.path.write := by
    rw [writeFront, h.authority_eq, front, List.append_assoc]
    rfl
  rw [write, hfront, tail, List.append_assoc, List.append_assoc, List.append_assoc]
  conv => lhs; rw [h.write_path.1]
  rfl

/-! ### Reading back -/

theorem IsWeb.isTail (h : u.IsWeb a host) :
    IsTail (u.path.write.drop 1) u.query u.fragment where
  segments := h.write_path.2
  query q hq c hc := by
    refine ⟨Percent.visible_of_specialQuery (h.query q hq c hc), ?_⟩
    rintro rfl
    exact absurd (h.query q hq '#' hc) (by decide)
  fragment f hf c hc := Percent.visible_of_fragment (h.fragment f hf c hc)

/-- Paths of settled segments are told apart by their texts. -/
theorem segments_injective {segments other : List Text} (hsome : segments ≠ [])
    (hsome' : other ≠ []) (hsettled : ∀ s ∈ segments, IsSettled s)
    (hsettled' : ∀ s ∈ other, IsSettled s)
    (h : (Path.segments segments).write = (Path.segments other).write) : segments = other := by
  have hslash {list : List Text} (hlist : ∀ s ∈ list, IsSettled s) : ∀ s ∈ list, '/' ∉ s :=
    fun s hs hc => ((hlist s hs).chars _ hc).2.1 rfl
  rw [Path.write, Path.write, flatMap_slash hsome, flatMap_slash hsome'] at h
  rw [← Text.splitAll_join hsome (hslash hsettled), (List.cons.inj h).2,
    Text.splitAll_join hsome' (hslash hsettled')]

/-- What the text of an address of the web has behind its authority is read as it was. -/
theorem IsWeb.onServer_eq (h : u.IsWeb a host) : onServer u.scheme a u.tail = u := by
  obtain ⟨hwrite, hquery, hfragment⟩ := onServer_tail h.http a h.isTail
  have hpath : readPath u.scheme ('/' :: (cutParts (behind u.tail)).1) = u.path := by
    obtain ⟨segments, hpath, hsome, hsettled⟩ := h.path
    obtain ⟨again, hagain, hsome', hsettled'⟩ := readPath_isSettled (ne_file_of_isHttp h.http)
      (isSpecial_of_isHttp h.http) ('/' :: (cutParts (behind u.tail)).1)
    have heq : (readPath u.scheme ('/' :: (cutParts (behind u.tail)).1)).write = u.path.write :=
      hwrite.trans h.write_path.1.symm
    rw [hagain, hpath] at heq
    rw [hagain, hpath, segments_injective hsome' hsome hsettled' hsettled heq]
  have hsame : u.query.map (encodeQuery u.scheme) = u.query := by
    cases hq : u.query with
    | none => rfl
    | some q =>
      rw [Option.map_some, encodeQuery, if_pos (isSpecial_of_isHttp h.http),
        Percent.encode_eq_self (h.query q hq)]
  have hsame' : u.fragment.map encodeFragment = u.fragment := by
    cases hf : u.fragment with
    | none => rfl
    | some f => rw [Option.map_some, encodeFragment, Percent.encode_eq_self (h.fragment f hf)]
  have hquery' : (cutParts (behind u.tail)).2.1.map (encodeQuery u.scheme) = u.query :=
    hquery.trans hsame
  have hfragment' : (cutParts (behind u.tail)).2.2.map encodeFragment = u.fragment :=
    hfragment.trans hsame'
  rw [onServer, hpath, hquery', hfragment', ← h.authority_eq]

/-- The text of an address of the web is read as that address, unless a label of its host is too
long. -/
theorem IsWeb.parse_write (h : u.IsWeb a host) :
    parseText u.write = if host.IsReadable then .ok u else .error .invalidDomain := by
  rw [h.write_eq, parseText_write h.http h.authority, h.onServer_eq]

end RestConformance.Url
