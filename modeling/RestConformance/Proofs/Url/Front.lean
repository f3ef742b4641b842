import RestConformance.Proofs.Url.Authority

/-!
# Where the path of an address begins

In the text of an address of the web the first slash behind the authority settles scheme and
authority. What comes behind it only decides on path, query and fragment.

## Main definitions

* `Url.front scheme place` – scheme and authority of an address, up to that slash;
* `Url.behind rest` – what is read of the text behind it;
* `Url.onServer scheme a rest` – the address that it is read as.

## Main results

* `Url.parseText_front` – reading an address falls apart at that slash;
* `Url.parseText_write` – what is read of the text of an authority, and when.
-/

namespace RestConformance.Url

variable {scheme : Scheme} {place : Text} {a : Authority} {host : Host}

/-- Scheme and authority of an address. -/
def front (scheme : Scheme) (place : Text) : Text :=
  scheme.name ++ ':' :: '/' :: '/' :: place

/-- Whether a character is dropped at the ends of an address. -/
def isOuter (c : Char) : Bool :=
  c.toNat ≤ 0x20

/-- Whether a character is kept within an address. -/
def isKept (c : Char) : Bool :=
  c != '\t' && c != '\n' && c != '\r'

/-- What is read of the text behind the first slash of a path. -/
def behind (rest : Text) : Text :=
  (Text.trimRight isOuter rest).filter isKept

/-- The address with a scheme and an authority whose path, query and fragment a text writes behind
the first slash of the path. -/
def onServer (scheme : Scheme) (a : Authority) (rest : Text) : Url :=
  ⟨scheme, some a, readPath scheme ('/' :: (cutParts (behind rest)).1),
    (cutParts (behind rest)).2.1.map (encodeQuery scheme),
    (cutParts (behind rest)).2.2.map encodeFragment⟩

theorem isKept_iff {c : Char} : isKept c = true ↔ c ≠ '\t' ∧ c ≠ '\n' ∧ c ≠ '\r' := by
  rw [isKept, Bool.and_eq_true, Bool.and_eq_true, bne_iff_ne, bne_iff_ne, bne_iff_ne, and_assoc]

theorem isKept_of_visible {c : Char} (h : 0x20 < c.toNat) : isKept c = true := by
  refine isKept_iff.2 ⟨?_, ?_, ?_⟩ <;> rintro rfl <;> exact absurd h (by decide)

/-! ### Cutting off query and fragment -/

/-- A cut comes behind a text that does not hold the separator. -/
theorem cut_append {separator : Char} {t : Text} (h : separator ∉ t) (rest : Text) :
    cut separator (t ++ rest) = (t ++ (cut separator rest).1, (cut separator rest).2) := by
  have hsplit : Text.splitFirst separator (t ++ rest) =
      (Text.splitFirst separator rest).map fun parts => (t ++ parts.1, parts.2) := by
    induction t with
    | nil =>
      rw [List.nil_append]
      cases Text.splitFirst separator rest <;> rfl
    | cons c more ih =>
      obtain ⟨hc, hmore⟩ := List.ne_and_not_mem_of_not_mem_cons h
      rw [List.cons_append, Text.splitFirst, if_neg (Ne.symm hc), ih hmore, Option.map_map]
      rfl
  rw [cut, cut, hsplit]
  cases Text.splitFirst separator rest <;> rfl

theorem cutParts_append {t : Text} (hquery : '?' ∉ t) (hfragment : '#' ∉ t) (rest : Text) :
    cutParts (t ++ rest) = (t ++ (cutParts rest).1, (cutParts rest).2) := by
  unfold cutParts
  rw [cut_append hfragment]
  dsimp only
  rw [cut_append hquery]

/-- The text of a path, a query and a fragment is cut between them. -/
theorem cutParts_write {main : Text} {query fragment : Option Text}
    (hmain : '?' ∉ main ∧ '#' ∉ main) (hquery : ∀ q, query = some q → '#' ∉ q) :
    cutParts (main ++ writeQuery query ++ writeFragment fragment) = (main, query, fragment) := by
  have hwritten : '#' ∉ writeQuery query := by
    cases query with
    | none => exact List.not_mem_nil
    | some q => exact List.not_mem_cons_of_ne_of_not_mem (by decide) (hquery q rfl)
  have hfragment : cut '#' (writeFragment fragment) = ([], fragment) := by
    cases fragment <;> rfl
  have hcut : cut '?' (writeQuery query) = ([], query) := by
    cases query <;> rfl
  rw [List.append_assoc, cutParts_append hmain.1 hmain.2]
  unfold cutParts
  rw [cut_append hwritten, hfragment]
  dsimp only
  rw [List.append_nil, hcut, List.append_nil]

/-! ### Text that is read as it stands -/

theorem behind_sublist (t : Text) : (behind t).Sublist t :=
  List.filter_sublist.trans (List.rdropWhile_prefix isOuter t).sublist

/-- A text is read as it stands exactly if no character is dropped in it or at its end. -/
theorem behind_eq_self_iff {t : Text} : behind t = t ↔
    (∀ c ∈ t, isKept c = true) ∧ t.getLast?.any isOuter = false := by
  have htrim : Text.trimRight isOuter t = t ↔ t.getLast?.any isOuter = false := by
    refine List.rdropWhile_eq_self_iff.trans ?_
    cases t with
    | nil => exact ⟨fun _ => rfl, fun _ h => absurd rfl h⟩
    | cons c rest =>
      have hsome := List.cons_ne_nil c rest
      rw [List.getLast?_eq_some_getLast hsome, Option.any_some, Bool.eq_false_iff]
      exact ⟨fun h => h hsome, fun h _ => h⟩
  rw [← htrim]
  constructor
  · intro heq
    refine ⟨fun c hc => ?_, ?_⟩
    · rw [← heq] at hc
      exact (List.mem_filter.1 hc).2
    · have hinner : t.Sublist (Text.trimRight isOuter t) := by
        conv => lhs; rw [← heq]
        exact List.filter_sublist
      exact (List.rdropWhile_prefix isOuter t).sublist.antisymm hinner
  · rintro ⟨hkept, hlast⟩
    rw [behind, hlast, List.filter_eq_self.2 hkept]

/-- A text of visible characters is read as it stands. -/
theorem behind_of_visible {t : Text} (h : ∀ c ∈ t, 0x20 < c.toNat) : behind t = t := by
  refine behind_eq_self_iff.2 ⟨fun c hc => isKept_of_visible (h c hc), ?_⟩
  cases hlast : t.getLast? with
  | none => rfl
  | some c => exact decide_eq_false (Nat.not_le_of_lt (h c (List.mem_of_getLast? hlast)))

/-! ### The parts of the front -/

theorem isHttp_iff : scheme.isHttp = true ↔ scheme = .http ∨ scheme = .https := by
  cases scheme <;> simp [Scheme.isHttp]

theorem scheme_cases (hhttp : scheme.isHttp = true) : scheme = .http ∨ scheme = .https :=
  isHttp_iff.1 hhttp

theorem isSpecial_of_isHttp (hhttp : scheme.isHttp = true) : scheme.isSpecial = true := by
  rcases scheme_cases hhttp with rfl | rfl <;> rfl

theorem readScheme?_front (hhttp : scheme.isHttp = true) (rest : Text) :
    readScheme? (scheme.name ++ ':' :: rest) = some (scheme, rest) := by
  rcases scheme_cases hhttp with rfl | rfl
  · rw [readScheme?, Text.splitFirst_append (by decide)]
    rfl
  · rw [readScheme?, Text.splitFirst_append (by decide)]
    rfl

theorem isInner_of_mem_name (hhttp : scheme.isHttp = true) {c : Char} (h : c ∈ scheme.name) :
    IsInner c := by
  have table : (∀ d ∈ Scheme.http.name, IsInner d) ∧ ∀ d ∈ Scheme.https.name, IsInner d := by
    decide
  rcases scheme_cases hhttp with rfl | rfl
  · exact table.1 c h
  · exact table.2 c h

theorem IsInner.isSlash {c : Char} (h : IsInner c) : isSlash true c = false := by
  obtain ⟨-, hslash, hback, -, -⟩ := h
  simp [Url.isSlash, hslash, hback]

section Place

variable (hhttp : scheme.isHttp = true) (hplace : ∀ c ∈ place, IsInner c)

include hhttp hplace

theorem mem_front {c : Char} (h : c ∈ front scheme place) :
    IsInner c ∨ c = ':' ∨ c = '/' := by
  rcases List.mem_append.1 h with hname | h
  · exact .inl (isInner_of_mem_name hhttp hname)
  rcases List.mem_cons.1 h with rfl | h
  · exact .inr (.inl rfl)
  rcases List.mem_cons.1 h with rfl | h
  · exact .inr (.inr rfl)
  rcases List.mem_cons.1 h with rfl | h
  · exact .inr (.inr rfl)
  · exact .inl (hplace c h)

theorem clean_front (rest : Text) :
    clean (front scheme place ++ '/' :: rest) = front scheme place ++ '/' :: behind rest := by
  have hleft : Text.trimLeft isOuter (front scheme place ++ '/' :: rest) =
      front scheme place ++ '/' :: rest := by
    rcases scheme_cases hhttp with rfl | rfl
    · exact List.dropWhile_cons_of_neg (by decide)
    · exact List.dropWhile_cons_of_neg (by decide)
  have hkept : (front scheme place).filter isKept = front scheme place := by
    refine List.filter_eq_self.2 fun c hc => ?_
    rcases mem_front hhttp hplace hc with hinner | rfl | rfl
    · exact isKept_of_visible hinner.1
    · decide
    · decide
  show (Text.trimRight isOuter (Text.trimLeft isOuter _)).filter isKept = _
  rw [hleft, Text.trimRight_append_cons (by decide), List.filter_append, hkept,
    List.filter_cons_of_pos (by decide)]
  rfl

theorem cutParts_front (rest : Text) :
    cutParts (front scheme place ++ '/' :: rest) =
      (front scheme place ++ '/' :: (cutParts rest).1, (cutParts rest).2) := by
  have habsent : ∀ d, d ≠ ':' → d ≠ '/' → ¬IsInner d → d ∉ front scheme place ++ ['/'] := by
    intro d hcolon hslash hinner hmem
    rcases List.mem_append.1 hmem with hmem | hmem
    · rcases mem_front hhttp hplace hmem with h | h | h
      · exact hinner h
      · exact hcolon h
      · exact hslash h
    · exact hslash (List.mem_singleton.1 hmem)
  have hquery := habsent '?' (by decide) (by decide) fun h => h.2.2.2.1 rfl
  have hfragment := habsent '#' (by decide) (by decide) fun h => h.2.2.2.2 rfl
  have h := cutParts_append hquery hfragment rest
  rwa [List.append_assoc, List.append_assoc, List.singleton_append, List.singleton_append] at h

/-- An authority ends at the slash behind it. -/
theorem readHierarchy_front (followed : Bool) (main : Text) :
    readHierarchy scheme followed (place ++ '/' :: main) =
      (readAuthority scheme true place).map fun found =>
        (found.1, readPath scheme (found.2 ++ '/' :: main)) := by
  have hinner : ∀ c ∈ place, (!isSlash true c) = true := by
    intro c hc
    rw [(hplace c hc).isSlash]
    rfl
  have htake : (place ++ '/' :: main).takeWhile (!isSlash true ·) = place := by
    rw [List.takeWhile_append_of_pos hinner, List.takeWhile_cons_of_neg (by decide),
      List.append_nil]
  have hdrop : (place ++ '/' :: main).dropWhile (!isSlash true ·) = '/' :: main := by
    rw [List.dropWhile_append_of_pos hinner, List.dropWhile_cons_of_neg (by decide)]
  unfold readHierarchy
  rw [isSpecial_of_isHttp hhttp]
  dsimp only
  rw [htake, hdrop, List.isEmpty_cons, Bool.not_false, Bool.or_true]
  cases readAuthority scheme true place <;> rfl

/-- The slashes before an authority and the slash behind it are its limits. -/
theorem readBody_front (hsome : place ≠ []) (followed : Bool) (main : Text) :
    readBody scheme followed ('/' :: '/' :: place ++ '/' :: main) =
      (readAuthority scheme true place).map fun found =>
        (some found.1, readPath scheme (found.2 ++ '/' :: main)) := by
  have hslashes : ('/' :: '/' :: place ++ '/' :: main).dropWhile (isSlash true) =
      place ++ '/' :: main := by
    obtain ⟨c, more, rfl⟩ := List.exists_cons_of_ne_nil hsome
    have hstop : ¬isSlash true c = true :=
      Bool.eq_false_iff.1 (hplace c List.mem_cons_self).isSlash
    show ('/' :: '/' :: c :: (more ++ '/' :: main)).dropWhile (isSlash true) = _
    rw [List.dropWhile_cons_of_pos (by decide), List.dropWhile_cons_of_pos (by decide),
      List.dropWhile_cons_of_neg hstop]
    rfl
  have hbody : readBody scheme followed ('/' :: '/' :: place ++ '/' :: main) =
      (readHierarchy scheme followed (place ++ '/' :: main)).map fun found =>
        (some found.1, found.2) := by
    rw [← hslashes]
    rcases scheme_cases hhttp with rfl | rfl <;> rfl
  rw [hbody, readHierarchy_front hhttp hplace]
  cases readAuthority scheme true place <;> rfl

/-- Reading an address falls apart at the first slash behind its authority. -/
theorem parseText_front (hsome : place ≠ []) (rest : Text) :
    parseText (front scheme place ++ '/' :: rest) =
      (readAuthority scheme true place).map fun found =>
        ⟨scheme, some found.1, readPath scheme (found.2 ++ '/' :: (cutParts (behind rest)).1),
          (cutParts (behind rest)).2.1.map (encodeQuery scheme),
          (cutParts (behind rest)).2.2.map encodeFragment⟩ := by
  have hfront : ∀ main : Text, front scheme place ++ '/' :: main =
      scheme.name ++ ':' :: ('/' :: '/' :: place ++ '/' :: main) := by
    intro main
    rw [front, List.append_assoc]
    rfl
  unfold parseText
  rw [clean_front hhttp hplace, cutParts_front hhttp hplace]
  dsimp only
  rw [hfront, readScheme?_front hhttp]
  dsimp only
  rw [readBody_front hhttp hplace hsome]
  cases readAuthority scheme true place <;> rfl

end Place

/-- Behind the text of an authority that was read, all texts are read with that authority, or none
is. -/
theorem parseText_write (hhttp : scheme.isHttp = true) (h : a.IsRead scheme host) (rest : Text) :
    parseText (front scheme a.write ++ '/' :: rest) =
      if host.IsReadable then .ok (onServer scheme a rest) else .error .invalidDomain := by
  have hsome : a.write ≠ [] :=
    List.append_ne_nil_of_right_ne_nil _ (writeHost_ne_nil h)
  rw [parseText_front hhttp (fun _ hc => isInner_write h hc) hsome,
    readAuthority_write (isSpecial_of_isHttp hhttp) h]
  split <;> rfl

end RestConformance.Url
