import RestConformance.Http.Preparation
import RestConformance.Proofs.Url.Form

/-!
# Users named in the query

A user who is not asked for a password is named by one more pair of the query. All else of the
address stays as it is, down to its text: the pair is put behind the query and before the fragment.
Credentials of other kinds leave the address alone.

## Main results

* `Http.write_addPair` – the text of an address whose query gets a pair;
* `Http.authenticatedUrl_keeps` – what credentials make of the address of a request.
-/

namespace RestConformance.Http

variable {address : String} {url : Url}

/-- A pair is put behind the query and before the fragment. -/
theorem write_addPair (url : Url) (name value : Text) :
    ∃ run, (url.addPair name value).write =
      url.writeFront ++ Url.writeQuery url.query ++ run ++ Url.writeFragment url.fragment := by
  have hwrite : (url.addPair name value).write = url.writeFront ++
      '?' :: Form.append (url.query.getD []) name value ++ Url.writeFragment url.fragment := rfl
  rw [hwrite]
  -- The run starts with the question mark, if there is none yet.
  cases url.query with
  | none =>
    refine ⟨'?' :: Form.append [] name value, ?_⟩
    rw [Url.writeQuery, List.append_nil]
    rfl
  | some query =>
    refine ⟨(if query.isEmpty then [] else ['&']) ++ Form.encode name ++ '=' :: Form.encode value,
      ?_⟩
    simp only [Url.writeQuery, Form.append, Option.getD_some, List.append_assoc, List.cons_append]

/-- If the text of an address reads back, it does so with one more pair in its query. -/
theorem parse_addPair (hparse : Url.parse address = .ok url) (hhttp : url.scheme.isHttp = true)
    (hback : Url.parse url.text = .ok url) (name value : Text) :
    Url.parse (url.addPair name value).text = .ok (url.addPair name value) := by
  obtain ⟨a, host, hweb⟩ := Url.isWeb_of_parseText hparse hhttp
  rw [Url.parse, Url.text, String.toList_ofList, hweb.parse_write] at hback
  rw [Url.parse, Url.text, String.toList_ofList, (hweb.addPair name value).parse_write]
  split at hback
  · next hreadable => exact if_pos hreadable
  · cases hback

/-- A user who is named in the query adds a pair to it and changes nothing else, neither of the
parts of the address nor of its text. Other credentials change nothing at all. -/
theorem authenticatedUrl_keeps (hparse : Url.parse address = .ok url)
    (hhttp : url.scheme.isHttp = true) :
    (∀ user : String, ∃ full, authenticatedUrl address (.pseudoUser user) = .ok full ∧
      full.scheme = url.scheme ∧ full.authority = url.authority ∧ full.path = url.path ∧
      full.fragment = url.fragment ∧
      full.pairs = url.pairs ++ [("user.name".toList, user.toList)] ∧
      (∃ run, full.write = url.writeFront ++ Url.writeQuery url.query ++ run ++
        Url.writeFragment url.fragment) ∧
      (Url.parse url.text = .ok url → Url.parse full.text = .ok full)) ∧
    ∀ credentials, (∀ user, credentials ≠ .pseudoUser user) →
      authenticatedUrl address credentials = .ok url := by
  refine ⟨fun user => ?_, fun credentials hother => ?_⟩
  · refine ⟨url.addPair "user.name".toList user.toList, ?_, rfl, rfl, rfl, rfl,
      Url.pairs_addPair _ _ url, write_addPair url _ _, fun hback => ?_⟩
    · rw [authenticatedUrl, hparse]
      rfl
    · exact parse_addPair hparse hhttp hback _ _
  · rw [authenticatedUrl, hparse]
    cases credentials with
    | pseudoUser user => exact absurd rfl (hother user)
    | anonymous => rfl
    | basic username password => rfl
    | bearer token => rfl

/-- An address with a user, with an empty pair in its query and another behind it, and with a
fragment. -/
def crowdedAddress : String :=
  "HTTP://us%20er:p@[fe80::1]:81/a/../b c?x=1&&y=%41+&#part"

/-- What this address is read as. -/
def crowdedUrl : Url :=
  ⟨.http, some ⟨"us%20er".toList, some "p".toList,
      some (.ipv6 ⟨[0xfe80, 0, 0, 0, 0, 0, 0, 1], rfl⟩), some 81⟩,
    .segments ["b%20c".toList], some "x=1&&y=%41+&".toList, some "part".toList⟩

/-- A user with the signs of queries in the name comes behind the two pairs of this address. -/
theorem authenticatedUrl_keeps_crowded :
    Url.parse crowdedAddress = .ok crowdedUrl ∧ crowdedUrl.scheme.isHttp = true ∧
    (∃ full, authenticatedUrl crowdedAddress (.pseudoUser "a b&=+%é#") = .ok full ∧
      full.authority = crowdedUrl.authority ∧ full.path = .segments ["b%20c".toList] ∧
      full.fragment = some "part".toList ∧
      full.pairs = [("x".toList, "1".toList), ("y".toList, "A ".toList),
        ("user.name".toList, "a b&=+%é#".toList)] ∧
      Url.parse full.text = .ok full) ∧
    authenticatedUrl crowdedAddress (.bearer "t") = .ok crowdedUrl := by
  have hparse : Url.parse crowdedAddress = .ok crowdedUrl := by decide +kernel
  have hback : Url.parse crowdedUrl.text = .ok crowdedUrl := by decide +kernel
  have hpairs : crowdedUrl.pairs =
      [("x".toList, "1".toList), ("y".toList, "A ".toList)] := by decide +kernel
  obtain ⟨hnamed, hother⟩ := authenticatedUrl_keeps hparse rfl
  obtain ⟨full, hfull, -, hauthority, hpath, hfragment, hmore, -, hread⟩ := hnamed "a b&=+%é#"
  refine ⟨hparse, rfl, ⟨full, hfull, hauthority, hpath, hfragment, ?_, hread hback⟩, ?_⟩
  · rw [hmore, hpairs]
    rfl
  · exact hother (.bearer "t") (by simp)

end RestConformance.Http
