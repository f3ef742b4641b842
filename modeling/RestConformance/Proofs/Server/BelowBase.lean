import RestConformance.Proofs.Server.BaseAddress

/-!
# Where paths are put

A path is put behind the text of the address of the server. If that address is a path and nothing
else, the result lies below it. If it has a query or a fragment, the path ends up in there.

## Main definitions

* `Settings.IsOrdinary path main query` – a path whose segments are read as they stand, with a query
  or without one;
* `Settings.landing home main query` – where such a path is put;
* `Settings.IsBelow home main query url` – an address below that of the server.

## Main results

* `Settings.resolvePath_lands` – where ordinary paths are put, and that they are put below the
  address of the server exactly if it has neither a query nor a fragment;
* `Settings.path_in_query` – a server whose address has a query.
-/

namespace RestConformance.Settings

open Url (Authority Host IsSettled IsTail writeQuery writeFragment)

variable {lookup : String → Option String} {settings : Settings} {home url : Url} {a : Authority}
  {host : Host} {main : Text} {query : Option Text} {path : String} {c : Char}

/-- A path whose segments are read as they stand, with a query that is, or without one. -/
structure IsOrdinary (path : String) (main : Text) (query : Option Text) : Prop where
  text_eq : path.toList = main ++ writeQuery query
  segments : ∀ s ∈ Text.splitAll '/' main, IsSettled s
  query : ∀ q, query = some q → ∀ c ∈ q, Percent.specialQuery c = false

/-- What is put behind the address of the server. -/
def added (main : Text) (query : Option Text) : Text :=
  '/' :: (Text.trimLeft Http.isSeparator main ++ writeQuery query)

/-- Path, query and fragment of an address that an ordinary path is put behind. -/
def landing (home : Url) (main : Text) (query : Option Text) : Text × Option Text × Option Text :=
  match home.query, home.fragment with
  | none, none =>
    (Text.trimRight Http.isSeparator home.path.write ++ '/' :: Text.trimLeft Http.isSeparator main,
      query, none)
  | some q, none =>
    (home.path.write,
      some (Text.trimRight Http.isSeparator q ++ Url.encodeQuery home.scheme (added main query)),
      none)
  | q, some f =>
    (home.path.write, q,
      some (Text.trimRight Http.isSeparator f ++ Url.encodeFragment (added main query)))

/-- An address below that of the server: its path goes on with an ordinary path, its query is that
of the ordinary path, and it has no fragment. -/
structure IsBelow (home : Url) (main : Text) (query : Option Text) (url : Url) : Prop where
  path : url.path.write = Text.trimRight Http.isSeparator home.path.write ++
    '/' :: Text.trimLeft Http.isSeparator main
  query : url.query = query
  fragment : url.fragment = none

/-! ### Texts that are put together -/

/-- There are no slashes at the start of a query. -/
theorem trimLeft_writeQuery (main : Text) (query : Option Text) :
    Text.trimLeft Http.isSeparator (main ++ writeQuery query) =
      Text.trimLeft Http.isSeparator main ++ writeQuery query := by
  induction main with
  | nil => cases query <;> rfl
  | cons c rest ih =>
    rw [List.cons_append, Text.trimLeft, Text.trimLeft, List.dropWhile_cons, List.dropWhile_cons]
    split
    · exact ih
    · rfl

theorem separate_of_specialQuery (h : Percent.specialQuery c = false) :
    0x20 < c.toNat ∧ c ≠ '#' := by
  refine ⟨Percent.visible_of_specialQuery h, ?_⟩
  rintro rfl
  exact absurd h (by decide)

/-- A query that is encoded is not encoded a second time. -/
theorem map_encodeQuery {scheme : Url.Scheme} (hhttp : scheme.isHttp = true)
    (h : ∀ q, query = some q → ∀ c ∈ q, Percent.specialQuery c = false) :
    query.map (Url.encodeQuery scheme) = query := by
  cases query with
  | none => rfl
  | some q =>
    rw [Option.map_some, Url.encodeQuery, if_pos (Url.isSpecial_of_isHttp hhttp),
      Percent.encode_eq_self (h q rfl)]

section Ordinary

variable (hordinary : IsOrdinary path main query)

include hordinary

theorem IsOrdinary.mem_added (h : c ∈ added main query) : 0x20 < c.toNat ∧ c ≠ '#' := by
  rcases List.mem_cons.1 h with rfl | h
  · decide
  rcases List.mem_append.1 h with hmain | hquery
  · have hpath := (Url.mem_of_isSettled hordinary.segments
      ((List.dropWhile_suffix _).subset hmain)).1
    refine ⟨Percent.visible_of_fragment (Percent.fragment_of_path hpath), ?_⟩
    rintro rfl
    exact absurd hpath (by decide)
  · cases query with
    | none => exact absurd hquery List.not_mem_nil
    | some q =>
      rcases List.mem_cons.1 hquery with rfl | hq
      · decide
      · exact separate_of_specialQuery (hordinary.query q rfl c hq)

/-- An ordinary path goes on where the segments of the server end. -/
theorem IsOrdinary.segments_below (hweb : home.IsWeb a host) :
    ∃ t, Text.trimRight Http.isSeparator home.path.write ++
        '/' :: Text.trimLeft Http.isSeparator main = '/' :: t ∧
      ∀ s ∈ Text.splitAll '/' t, IsSettled s := by
  obtain ⟨hwrite, hhome⟩ := hweb.write_path
  obtain ⟨t, ht⟩ := Url.exists_trimRight_append (home.path.write.drop 1)
    (Text.trimLeft Http.isSeparator main)
  rw [← hwrite] at ht
  refine ⟨t, ht, fun s hs => ?_⟩
  -- The segments are those of the two texts, and trimming these has made no new ones.
  have hparts : [] :: Text.splitAll '/' t =
      Text.splitAll '/' (Text.trimRight Http.isSeparator home.path.write) ++
        Text.splitAll '/' (Text.trimLeft Http.isSeparator main) := by
    rw [← Text.splitAll_append_separator, ht, Text.splitAll, if_pos rfl]
  have hin : s ∈ [] :: Text.splitAll '/' t := List.mem_cons_of_mem _ hs
  rw [hparts] at hin
  rcases List.mem_append.1 hin with hfront | hback
  · have hsegment := Text.mem_splitAll_trimRight hfront
    rw [hwrite, Text.splitAll, if_pos rfl] at hsegment
    rcases List.mem_cons.1 hsegment with rfl | hsegment
    · exact Url.isSettled_nil
    · exact hhome s hsegment
  · exact hordinary.segments s (Text.mem_splitAll_trimLeft hback)

end Ordinary

/-! ### The three kinds of addresses -/

/-- What is read of an address that an ordinary path is put behind. -/
def Lands (home : Url) (main : Text) (query : Option Text) : Prop :=
  ∃ main' query' fragment', IsTail main' query' fragment' ∧
    home.stem ++ added main query =
      '/' :: (main' ++ writeQuery query' ++ writeFragment fragment') ∧
    ('/' :: main', query'.map (Url.encodeQuery home.scheme), fragment'.map Url.encodeFragment) =
      landing home main query

section Kinds

variable (hweb : home.IsWeb a host) (hordinary : IsOrdinary path main query)

include hweb

/-- The text of an address behind its front. -/
theorem tail_eq : '/' :: home.tail =
    home.path.write ++ writeQuery home.query ++ writeFragment home.fragment := by
  rw [Url.tail]
  conv => rhs; rw [hweb.write_path.1]
  rfl

/-- Paths are put behind the path of an address that is nothing else. -/
theorem stem_of_path (hquery : home.query = none) (hfragment : home.fragment = none) :
    home.stem = Text.trimRight Http.isSeparator home.path.write := by
  rw [Url.stem, tail_eq hweb, hquery, hfragment]
  simp [writeQuery, writeFragment]

/-- A query that is kept of the server is read as it stands. -/
theorem encodeQuery_trimmed {q : Text} (hq : home.query = some q) (more : Text) :
    Url.encodeQuery home.scheme (Text.trimRight Http.isSeparator q ++ more) =
      Text.trimRight Http.isSeparator q ++ Url.encodeQuery home.scheme more := by
  rw [Url.encodeQuery, Url.encodeQuery, if_pos (Url.isSpecial_of_isHttp hweb.http),
    Percent.encode_append, Percent.encode_eq_self fun c hc => ?_]
  exact hweb.query q hq c ((List.rdropWhile_prefix Http.isSeparator q).subset hc)

include hordinary

theorem lands_in_path (hquery : home.query = none) (hfragment : home.fragment = none) :
    Lands home main query := by
  obtain ⟨t, ht, hsettled⟩ := hordinary.segments_below hweb
  refine ⟨t, query, none, ⟨hsettled, fun q hq c hc => ?_, nofun⟩, ?_, ?_⟩
  · refine hordinary.mem_added (List.mem_cons_of_mem _ (List.mem_append_right _ ?_))
    rw [hq]
    exact List.mem_cons_of_mem _ hc
  · rw [stem_of_path hweb hquery hfragment, added, ← List.cons_append, ← List.append_assoc, ht]
    exact (List.append_nil _).symm
  · rw [landing, hquery, hfragment, ← ht, map_encodeQuery hweb.http hordinary.query]
    rfl

theorem lands_in_query {q : Text} (hquery : home.query = some q)
    (hfragment : home.fragment = none) : Lands home main query := by
  obtain ⟨hwrite, hsettled⟩ := hweb.write_path
  have hstem : home.stem = home.path.write ++ '?' :: Text.trimRight Http.isSeparator q := by
    rw [Url.stem, tail_eq hweb, hquery, hfragment]
    show Text.trimRight Http.isSeparator (home.path.write ++ '?' :: q ++ []) = _
    rw [List.append_nil, Text.trimRight_append_cons rfl]
  refine ⟨home.path.write.drop 1, some (Text.trimRight Http.isSeparator q ++ added main query),
    none, ⟨hsettled, ?_, nofun⟩, ?_, ?_⟩
  · intro kept hkept c hc
    rw [← Option.some.inj hkept] at hc
    rcases List.mem_append.1 hc with hold | hnew
    · exact separate_of_specialQuery
        (hweb.query q hquery c ((List.rdropWhile_prefix Http.isSeparator q).subset hold))
    · exact hordinary.mem_added hnew
  · rw [hstem, List.append_assoc, List.cons_append]
    conv => lhs; rw [hwrite]
    simp [writeQuery, writeFragment]
  · rw [landing, hquery, hfragment, ← hwrite, Option.map_some, encodeQuery_trimmed hweb hquery]
    rfl

theorem lands_in_fragment {f : Text} (hfragment : home.fragment = some f) :
    Lands home main query := by
  obtain ⟨hwrite, hsettled⟩ := hweb.write_path
  have hstem : home.stem =
      home.path.write ++ writeQuery home.query ++ '#' :: Text.trimRight Http.isSeparator f := by
    rw [Url.stem, tail_eq hweb, hfragment]
    exact Text.trimRight_append_cons rfl _ _
  have hkept : Text.trimRight Http.isSeparator f ⊆ f :=
    (List.rdropWhile_prefix Http.isSeparator f).subset
  refine ⟨home.path.write.drop 1, home.query,
    some (Text.trimRight Http.isSeparator f ++ added main query), ⟨hsettled, ?_, ?_⟩, ?_, ?_⟩
  · exact fun q hq c hc => separate_of_specialQuery (hweb.query q hq c hc)
  · intro kept heq c hc
    rw [← Option.some.inj heq] at hc
    rcases List.mem_append.1 hc with hold | hnew
    · exact Percent.visible_of_fragment (hweb.fragment f hfragment c (hkept hold))
    · exact (hordinary.mem_added hnew).1
  · rw [hstem]
    conv => lhs; rw [hwrite]
    simp [writeFragment]
  · have hencoded : Url.encodeFragment (Text.trimRight Http.isSeparator f ++ added main query) =
        Text.trimRight Http.isSeparator f ++ Url.encodeFragment (added main query) := by
      rw [Url.encodeFragment, Percent.encode_append,
        Percent.encode_eq_self fun c hc => hweb.fragment f hfragment c (hkept hc)]
      rfl
    rw [landing, hfragment, ← hwrite, map_encodeQuery hweb.http hweb.query, Option.map_some,
      hencoded]
    cases home.query <;> rfl

theorem lands : Lands home main query := by
  cases hfragment : home.fragment with
  | some f => exact lands_in_fragment hweb hordinary hfragment
  | none =>
    cases hquery : home.query with
    | some q => exact lands_in_query hweb hordinary hquery hfragment
    | none => exact lands_in_path hweb hordinary hquery hfragment

end Kinds

/-! ### Main results -/

/-- A query that something is put before is another one. -/
theorem query_ne (hhttp : home.scheme.isHttp = true) (hordinary : IsOrdinary path main query)
    (kept : Text) : some (kept ++ Url.encodeQuery home.scheme (added main query)) ≠ query := by
  intro heq
  obtain ⟨q, hq⟩ : ∃ q, query = some q := ⟨_, heq.symm⟩
  have hself := Percent.encode_eq_self (hordinary.query q hq)
  have hadded : added main query = ('/' :: Text.trimLeft Http.isSeparator main ++ ['?']) ++ q := by
    rw [added, hq, List.append_assoc]
    rfl
  rw [hadded, Url.encodeQuery, if_pos (Url.isSpecial_of_isHttp hhttp), Percent.encode_append, hself,
    hq, ← List.append_assoc] at heq
  have hnone := List.append_left_eq_self.1 (Option.some.inj heq)
  exact Percent.encode_ne_nil (List.cons_ne_nil _ _) (List.append_eq_nil_iff.1 hnone).2

/-- An ordinary path is put below the address of the server exactly if that has neither a query nor
a fragment. Otherwise it ends up in the fragment if there is one, and in the query if not. -/
theorem resolvePath_lands (h : Settings.read lookup = .ok settings)
    (hordinary : IsOrdinary path main query) :
    ∃ home host, Url.parse (baseValue lookup) = .ok home ∧ home.host? = some host ∧
      if host.IsReadable then
        ∃ url, Url.parse (Http.resolvePath settings.baseUrl path) = .ok url ∧
          url.scheme = home.scheme ∧ url.authority = home.authority ∧
          (url.path.write, url.query, url.fragment) = landing home main query ∧
          (IsBelow home main query url ↔ home.query = none ∧ home.fragment = none)
      else Url.parse (Http.resolvePath settings.baseUrl path) = .error .invalidDomain := by
  obtain ⟨home, a, host, hparse, hweb, hbase⟩ := read_baseUrl h
  refine ⟨home, host, hparse, hweb.host?_eq, ?_⟩
  obtain ⟨rest, hrest, hresolved⟩ := parse_resolvePath hweb hbase path
  by_cases hreadable : host.IsReadable
  · rw [if_pos hreadable] at hresolved ⊢
    obtain ⟨main', query', fragment', htail, htext, hlanding⟩ := lands hweb hordinary
    rw [hordinary.text_eq, trimLeft_writeQuery] at hrest
    rw [added, hrest] at htext
    obtain ⟨hpath, hquery, hfragment⟩ := Url.onServer_tail hweb.http a htail
    rw [← (List.cons.inj htext).2] at hpath hquery hfragment
    rw [← hpath, ← hquery, ← hfragment] at hlanding
    refine ⟨_, hresolved, rfl, hweb.authority_eq.symm, hlanding, ⟨fun hbelow => ?_, ?_⟩⟩
    -- What is put into a query or a fragment does not leave them as a path below would have them.
    · rw [hbelow.query, hbelow.fragment] at hlanding
      unfold landing at hlanding
      split at hlanding
      · next hnoQuery hnoFragment => exact ⟨hnoQuery, hnoFragment⟩
      · exact absurd (Prod.mk.inj (Prod.mk.inj hlanding).2).1.symm (query_ne hweb.http hordinary _)
      · exact absurd (Prod.mk.inj (Prod.mk.inj hlanding).2).2 nofun
    · rintro ⟨hnoQuery, hnoFragment⟩
      rw [landing, hnoQuery, hnoFragment] at hlanding
      obtain ⟨hpath, hrest⟩ := Prod.mk.inj hlanding
      obtain ⟨hquery, hfragment⟩ := Prod.mk.inj hrest
      exact ⟨hpath, hquery, hfragment⟩
  · rw [if_neg hreadable] at hresolved ⊢
    exact hresolved

/-- An address on this very machine. -/
def loopbackAt (segments : List Text) (query : Option Text) : Url where
  scheme := .http
  authority := some ⟨[], none, some loopback, none⟩
  path := .segments segments
  query := query
  fragment := none

/-- Slashes at the end of the address and at the start of the path become one. -/
theorem resolvePath_lands_below_slashes :
    ∃ settings, Settings.read (named "http://[::1]/base//") = .ok settings ∧
      IsOrdinary "//v1/link?name=it" "//v1/link".toList (some "name=it".toList) ∧
      ∃ url, Url.parse (Http.resolvePath settings.baseUrl "//v1/link?name=it") = .ok url ∧
        url.path.write = "/base/v1/link".toList ∧ url.query = some "name=it".toList ∧
          url.fragment = none := by
  have hbase : readBaseUrl "http://[::1]/base//" = .ok "http://[::1]/base//" := by
    decide +kernel
  have hparse : Url.parse (baseValue (named "http://[::1]/base//")) =
      .ok (loopbackAt ["base".toList, [], []] none) := by
    decide +kernel
  have hordinary : IsOrdinary "//v1/link?name=it" "//v1/link".toList (some "name=it".toList) := by
    refine ⟨by decide +kernel, by decide +kernel, ?_⟩
    intro q hq
    rw [← Option.some.inj hq]
    decide +kernel
  refine ⟨_, read_named hbase, hordinary, ?_⟩
  obtain ⟨home, host, hhome, hhost, hlands⟩ := resolvePath_lands (read_named hbase) hordinary
  rw [hparse] at hhome
  obtain rfl := Except.ok.inj hhome
  have hreadable : host.IsReadable := by
    rw [← Option.some.inj hhost]
    trivial
  rw [if_pos hreadable] at hlands
  obtain ⟨url, hurl, -, -, -, hiff⟩ := hlands
  have hbelow := hiff.2 ⟨rfl, rfl⟩
  refine ⟨url, hurl, hbelow.path.trans ?_, hbelow.query, hbelow.fragment⟩
  decide +kernel

/-- An address with a query is accepted, and then all paths are put into its query. -/
theorem path_in_query :
    ∃ settings, Settings.read (named "http://[::1]/base?x=1") = .ok settings ∧
      IsOrdinary "version" "version".toList none ∧
      ∃ url, Url.parse (Http.resolvePath settings.baseUrl "version") = .ok url ∧
        url.path.write = "/base".toList ∧ url.query = some "x=1/version".toList := by
  have hbase : readBaseUrl "http://[::1]/base?x=1" = .ok "http://[::1]/base?x=1/" := by
    decide +kernel
  refine ⟨_, read_named hbase, ⟨by decide +kernel, by decide +kernel, nofun⟩,
    loopbackAt ["base".toList] (some "x=1/version".toList), ?_, ?_, rfl⟩
  · decide +kernel
  · decide +kernel

end RestConformance.Settings
