import Mathlib.Data.List.Flatten
import RestConformance.Proofs.Url.Escapes
import RestConformance.Proofs.Url.Web

/-!
# Names at the end of a path

A name that is put behind a slash is read together with what comes before it. It is read as one
segment that stands for the name exactly if nothing in the name means something in an address.

## Main definitions

* `Url.NamesItself name` – nothing in the name means something in an address;
* `Url.EndsInName place name u` – the path of an address goes on with one segment, which stands for
  the name.

## Main results

* `Url.EndsInName.name_eq` – an address ends in one name at most;
* `Url.endsInName_iff` – which names an address ends in that are put behind its path.
-/

namespace RestConformance.Url

variable {scheme : Scheme} {a : Authority} {u : Url} {place name t : Text} {separator : Char}

/-- Nothing in the name means something in an address: no character separates parts or is dropped,
the last one is not dropped at the end of an address, and the name is no dot segment and has no
escape. -/
structure NamesItself (name : Text) : Prop where
  chars : ∀ c ∈ name, c ∉ ['/', '\\', '?', '#', '\t', '\n', '\r']
  last : name.getLast?.any isOuter = false
  not_single : isSingleDot name = false
  not_double : isDoubleDot name = false
  no_escape : Percent.hasEscape name = false

instance (name : Text) : Decidable (NamesItself name) :=
  decidable_of_iff ((∀ c ∈ name, c ∉ ['/', '\\', '?', '#', '\t', '\n', '\r']) ∧
      name.getLast?.any isOuter = false ∧ isSingleDot name = false ∧ isDoubleDot name = false ∧
      Percent.hasEscape name = false)
    ⟨fun ⟨hchars, hlast, hsingle, hdouble, hescape⟩ => ⟨hchars, hlast, hsingle, hdouble, hescape⟩,
      fun h => ⟨h.chars, h.last, h.not_single, h.not_double, h.no_escape⟩⟩

/-- The path of an address goes on behind a place with a slash and one segment, which stands for a
name, and neither a query nor a fragment follows. -/
structure EndsInName (place name : Text) (u : Url) : Prop where
  path : ∃ segment, '/' ∉ segment ∧ u.path.write = place ++ '/' :: segment ∧
    Percent.decode segment = Utf8.encode name
  query : u.query = none
  fragment : u.fragment = none

/-! ### The last segment -/

theorem splitSegments_append_separator (special : Bool) (t more : Text) :
    splitSegments special (t ++ '/' :: more) =
      splitSegments special t ++ splitSegments special more := by
  induction t with
  | nil => rfl
  | cons c rest ih =>
    rw [List.cons_append, splitSegments, splitSegments, ih]
    split
    · rfl
    · obtain ⟨segment, segments, hsplit⟩ :=
        List.exists_cons_of_ne_nil (splitSegments_ne_nil special rest)
      rw [hsplit]
      rfl

/-- A text ends in its last raw segment. -/
theorem exists_last_segment (t : Text) :
    ∃ raw segment, splitSegments true t = raw ++ [segment] ∧ segment.Sublist t := by
  induction t with
  | nil => exact ⟨[], [], rfl, List.Sublist.refl _⟩
  | cons c rest ih =>
    obtain ⟨raw, segment, hsplit, hsub⟩ := ih
    rw [splitSegments, hsplit]
    split
    · exact ⟨[] :: raw, segment, rfl, hsub.cons c⟩
    · cases raw with
      | nil => exact ⟨[], c :: segment, rfl, hsub.cons_cons c⟩
      | cons first raw => exact ⟨(c :: first) :: raw, segment, rfl, hsub.cons c⟩

/-- The last raw segment decides on the last segment. -/
theorem resolveSegments_concat (hfile : scheme ≠ .file) (raw before : List Text) (segment : Text) :
    ∃ kept, resolveSegments scheme before (raw ++ [segment]) = kept ++
      [if isDoubleDot segment || isSingleDot segment then []
        else Percent.encode Percent.path segment] := by
  induction raw generalizing before with
  | nil =>
    rw [List.nil_append, resolveSegments]
    cases isDoubleDot segment with
    | true => exact ⟨directoryAbove before, rfl⟩
    | false =>
      cases isSingleDot segment with
      | true => exact ⟨before, rfl⟩
      | false => exact ⟨before, by rw [writeSegment_eq hfile]; rfl⟩
  | cons first rest ih =>
    rw [List.cons_append, resolveSegments]
    split
    · exact ih _
    split
    · exact ih _
    · exact ih _

theorem write_concat (segments : List Text) (segment : Text) :
    (Path.segments (segments ++ [segment])).write =
      (Path.segments segments).write ++ '/' :: segment := by
  rw [Path.write, Path.write, List.flatMap_append, List.flatMap_singleton]

/-- Encoding makes no slashes. -/
theorem notMem_encode (h : '/' ∉ t) : '/' ∉ Percent.encode Percent.path t := by
  intro hmem
  rcases Percent.mem_encode hmem with ⟨hin, -⟩ | hsign
  · exact h hin
  · exact absurd hsign (by decide)

/-- The last segment of a path is what stands behind its last slash. -/
theorem last_segment_unique {front other segment segment' : Text} (hsegment : '/' ∉ segment)
    (hsegment' : '/' ∉ segment') (h : front ++ '/' :: segment = other ++ '/' :: segment') :
    segment = segment' := by
  have hlast := Text.splitLast_append front hsegment
  rw [h, Text.splitLast_append other hsegment'] at hlast
  exact (Prod.mk.inj (Option.some.inj hlast)).2.symm

/-- An address ends in one name at most. -/
theorem EndsInName.name_eq {first second : Text} (hfirst : EndsInName place first u)
    (hsecond : EndsInName place second u) : first = second := by
  obtain ⟨segment, hslash, hpath, hdecode⟩ := hfirst.path
  obtain ⟨segment', hslash', hpath', hdecode'⟩ := hsecond.path
  obtain rfl := last_segment_unique hslash hslash' (hpath.symm.trans hpath')
  exact Utf8.encode_injective (hdecode.symm.trans hdecode')

/-! ### What is read of a name -/

theorem cut_eq_self (h : (cut separator t).2 = none) : (cut separator t).1 = t ∧ separator ∉ t := by
  unfold cut at h ⊢
  split at h
  · cases h
  · next hnone => exact ⟨rfl, Text.notMem_of_splitFirst hnone⟩

/-- Without query and fragment all of a text belongs to the path. -/
theorem cutParts_eq_self (h : (cutParts t).2 = (none, none)) :
    (cutParts t).1 = t ∧ '?' ∉ t ∧ '#' ∉ t := by
  have hquery : (cut '?' (cut '#' t).1).2 = none := (Prod.mk.inj h).1
  have hfragment : (cut '#' t).2 = none := (Prod.mk.inj h).2
  obtain ⟨hfront, hnoFragment⟩ := cut_eq_self hfragment
  obtain ⟨hmain, hnoQuery⟩ := cut_eq_self hquery
  rw [hfront] at hnoQuery
  exact ⟨hmain.trans hfront, hnoQuery, hnoFragment⟩

/-- A part of a name that stands for the name is the name itself, and there is no escape in it. -/
theorem eq_of_sublist {part : Text} (hpart : part.Sublist name)
    (hdecode : Percent.decode part = Utf8.encode name) :
    part = name ∧ Percent.hasEscape part = false := by
  have hbytes : (Utf8.encode part).Sublist (Utf8.encode name) := hpart.flatMap _
  have hlength := Percent.length_decode_le part
  rw [hdecode] at hlength
  obtain rfl := Utf8.encode_injective (hbytes.eq_of_length_le hlength)
  exact ⟨rfl, Percent.decode_eq_encode_iff.1 hdecode⟩

section Below

variable (hhttp : scheme.isHttp = true) (ht : ∀ s ∈ Text.splitAll '/' t, IsSettled s)

include hhttp ht

theorem readPath_below (main : Text) : readPath scheme ('/' :: (t ++ '/' :: main)) =
    .segments (resolveSegments scheme (Text.splitAll '/' t) (splitSegments true main)) := by
  have hfile := ne_file_of_isHttp hhttp
  have hback : '\\' ∉ t := fun hmem => (mem_of_isSettled ht hmem).2 rfl
  rw [readPath, List.isEmpty_cons, Bool.false_and, if_neg Bool.false_ne_true, readPathFrom,
    trimSegments, if_neg hfile, isSpecial_of_isHttp hhttp]
  show Path.segments (resolveSegments scheme [] (splitSegments true (t ++ '/' :: main))) = _
  rw [splitSegments_append_separator, splitSegments_eq_splitAll hback,
    resolveSegments_append hfile ht, List.nil_append]

/-- What is read of a name that is put behind settled segments. -/
theorem onServer_below (a : Authority) (name : Text) : onServer scheme a (t ++ '/' :: name) =
    ⟨scheme, some a,
      .segments (resolveSegments scheme (Text.splitAll '/' t)
        (splitSegments true (cutParts (behind name)).1)),
      (cutParts (behind name)).2.1.map (encodeQuery scheme),
      (cutParts (behind name)).2.2.map encodeFragment⟩ := by
  have hvisible : ∀ c ∈ t, isKept c = true := fun c hc =>
    isKept_of_visible (Percent.visible_of_fragment
      (Percent.fragment_of_path (mem_of_isSettled ht hc).1))
  have hbehind : behind (t ++ '/' :: name) = t ++ '/' :: behind name := by
    rw [behind, Text.trimRight_append_cons (by decide), List.filter_append,
      List.filter_eq_self.2 hvisible, List.filter_cons_of_pos (by decide)]
    rfl
  have hsign : ∀ c ∈ t ++ ['/'], Percent.path c = false := by
    intro c hc
    rcases List.mem_append.1 hc with hc | hc
    · exact (mem_of_isSettled ht hc).1
    · rw [List.mem_singleton.1 hc]
      decide
  have hcut : cutParts (t ++ '/' :: behind name) =
      (t ++ '/' :: (cutParts (behind name)).1, (cutParts (behind name)).2) := by
    have happend := cutParts_append (t := t ++ ['/']) (fun h => absurd (hsign _ h) (by decide))
      (fun h => absurd (hsign _ h) (by decide)) (behind name)
    rwa [List.append_assoc, List.append_assoc, List.singleton_append, List.singleton_append]
      at happend
  rw [onServer, hbehind, hcut, readPath_below hhttp ht]

/-- A name that names itself is read as one segment. -/
theorem NamesItself.endsInName (h : NamesItself name) (a : Authority) :
    EndsInName ('/' :: t) name (onServer scheme a (t ++ '/' :: name)) := by
  have habsent : ∀ c ∈ ['/', '\\', '?', '#', '\t', '\n', '\r'], c ∉ name := fun c hc hin =>
    h.chars c hin hc
  have hbehind : behind name = name := by
    refine behind_eq_self_iff.2 ⟨fun c hc => isKept_iff.2 ⟨?_, ?_, ?_⟩, h.last⟩
    · rintro rfl
      exact habsent '\t' (by decide) hc
    · rintro rfl
      exact habsent '\n' (by decide) hc
    · rintro rfl
      exact habsent '\r' (by decide) hc
  have hcut : cutParts name = (name, none, none) := by
    have hnone : ∀ q : Text, none = some q → '#' ∉ q := nofun
    have hwrite : cutParts (name ++ writeQuery none ++ writeFragment none) = (name, none, none) :=
      cutParts_write ⟨habsent '?' (by decide), habsent '#' (by decide)⟩ hnone
    rwa [writeQuery, writeFragment, List.append_nil, List.append_nil] at hwrite
  have hsplit : splitSegments true name = [name] := by
    rw [splitSegments_eq_splitAll (habsent '\\' (by decide)),
      Text.splitAll_of_notMem (habsent '/' (by decide))]
  have hresolved : resolveSegments scheme (Text.splitAll '/' t) [name] =
      Text.splitAll '/' t ++ [Percent.encode Percent.path name] := by
    rw [resolveSegments, h.not_double, if_neg Bool.false_ne_true, h.not_single,
      if_neg Bool.false_ne_true, writeSegment_eq (ne_file_of_isHttp hhttp)]
    rfl
  rw [onServer_below hhttp ht, hbehind, hcut, hsplit, hresolved]
  refine ⟨⟨Percent.encode Percent.path name, notMem_encode (habsent '/' (by decide)), ?_, ?_⟩, rfl,
    rfl⟩
  · rw [write_concat, write_splitAll]
  · rw [Percent.decode_encode Percent.sparesEscapes_path,
      Percent.decode_eq_encode_iff.2 h.no_escape]

/-- A name that is read as one segment which stands for it names itself. -/
theorem EndsInName.namesItself
    (h : EndsInName ('/' :: t) name (onServer scheme a (t ++ '/' :: name))) :
    NamesItself name := by
  rw [onServer_below hhttp ht] at h
  obtain ⟨segment, hslash, hpath, hdecode⟩ := h.path
  obtain ⟨hmain, hnoQuery, hnoFragment⟩ := cutParts_eq_self
    (Prod.ext (Option.map_eq_none_iff.1 h.query) (Option.map_eq_none_iff.1 h.fragment))
  obtain ⟨raw, last, hsplit, hpart⟩ := exists_last_segment (behind name)
  obtain ⟨kept, hresolved⟩ :=
    resolveSegments_concat (ne_file_of_isHttp hhttp) raw (Text.splitAll '/' t) last
  have hlast : ∀ c ∈ last, c ≠ '/' ∧ c ≠ '\\' :=
    mem_splitSegments (t := behind name) (hsplit ▸ List.mem_append_right raw List.mem_cons_self)
  dsimp only at hpath
  rw [hmain, hsplit, hresolved, write_concat] at hpath
  by_cases hdot : (isDoubleDot last || isSingleDot last) = true
  · -- Nothing is left of a dot segment, and only the empty name is nothing.
    rw [if_pos hdot] at hpath
    obtain rfl := last_segment_unique List.not_mem_nil hslash hpath
    obtain rfl : [] = name := Utf8.encode_injective hdecode
    decide +kernel
  · -- No text but the name itself has as many bytes as the name among its parts.
    rw [if_neg hdot] at hpath
    obtain rfl := last_segment_unique (notMem_encode fun hin => (hlast _ hin).1 rfl) hslash hpath
    rw [Percent.decode_encode Percent.sparesEscapes_path] at hdecode
    obtain ⟨rfl, hescape⟩ := eq_of_sublist (hpart.trans (behind_sublist name)) hdecode
    have hbehind : behind last = last := (behind_sublist last).antisymm hpart
    obtain ⟨hkept, hend⟩ := behind_eq_self_iff.1 hbehind
    rw [hbehind] at hnoQuery hnoFragment
    rw [Bool.or_eq_true, not_or, Bool.not_eq_true, Bool.not_eq_true] at hdot
    refine ⟨fun c hc => ?_, hend, hdot.2, hdot.1, hescape⟩
    obtain ⟨htab, hline, hreturn⟩ := isKept_iff.1 (hkept c hc)
    simp only [List.mem_cons, List.not_mem_nil, or_false, not_or]
    exact ⟨(hlast c hc).1, (hlast c hc).2, fun h => hnoQuery (h ▸ hc),
      fun h => hnoFragment (h ▸ hc), htab, hline, hreturn⟩

/-- An address ends in a name that is put behind its path exactly if the name names itself. -/
theorem endsInName_iff (a : Authority) (name : Text) :
    EndsInName ('/' :: t) name (onServer scheme a (t ++ '/' :: name)) ↔ NamesItself name :=
  ⟨fun h => h.namesItself hhttp ht, fun h => h.endsInName hhttp ht a⟩

end Below

end RestConformance.Url
