import RestConformance.Proofs.Text.Cutting
import RestConformance.Proofs.Url.LowerCase
import RestConformance.Proofs.Url.Percent
import RestConformance.Url.Parser

/-!
# Paths read back

The segments of a path that was read are not rewritten when they are read again. In particular no
segment becomes a dot segment by being encoded.

## Main definitions

* `Url.IsSettled segment` – the segment stays as it is when it is read.

## Main results

* `Url.isSettled_encode` – encoding settles a segment;
* `Url.resolveSegments_isSettled` – resolved segments are settled;
* `Url.readPath_write` – the text of settled segments is read as that path.
-/

namespace RestConformance.Url

variable {s t : Text} {c : Char}

/-! ### Dot segments -/

/-- A text of dots in lower case, each of which stands for itself or is encoded. -/
inductive IsDots : Text → Prop where
  | nil : IsDots []
  | dot {rest : Text} : IsDots rest → IsDots ('.' :: rest)
  /-- A dot that is encoded. -/
  | encoded {rest : Text} : IsDots rest → IsDots ('%' :: '2' :: 'e' :: rest)

theorem isSingleDot_iff (segment : Text) :
    isSingleDot segment = true ↔
      ∃ word ∈ [['.'], ['%', '2', 'e']], Text.lowerAscii segment = word := by
  have hencoded : "%2e".toList = ['%', '2', 'e'] := by decide
  simp [isSingleDot, hencoded]

theorem isDoubleDot_iff (segment : Text) :
    isDoubleDot segment = true ↔
      ∃ word ∈ [['.', '.'], ['.', '%', '2', 'e'], ['%', '2', 'e', '.'],
        ['%', '2', 'e', '%', '2', 'e']], Text.lowerAscii segment = word := by
  have hplain : "..".toList = ['.', '.'] := by decide
  have hsecond : ".%2e".toList = ['.', '%', '2', 'e'] := by decide
  have hfirst : "%2e.".toList = ['%', '2', 'e', '.'] := by decide
  have hboth : "%2e%2e".toList = ['%', '2', 'e', '%', '2', 'e'] := by decide
  simp [isDoubleDot, hplain, hsecond, hfirst, hboth, or_assoc]

/-- A character of the set is not encoded as a dot. -/
theorem encodeChar_path (h : Percent.path c = true) : ∃ high low more,
    Percent.encodeChar c = '%' :: high :: low :: more ∧
      ¬(high.toLower = '2' ∧ low.toLower = 'e') := by
  -- In ASCII there are 128 characters to look at; beyond it every byte is 0x80 or more.
  by_cases hone : c.toNat ≤ 0x7F
  · have table : ∀ n ∈ List.range 128, Percent.path (Char.ofNat n) = true →
        ¬((Hexadecimal.upperDigit (n / 16)).toLower = '2' ∧
          (Hexadecimal.upperDigit (n % 16)).toLower = 'e') := by decide +kernel
    have hbyte : (UInt8.ofNat c.toNat).toNat = c.toNat := Utf8.toNat_ofNat (by omega)
    refine ⟨Hexadecimal.upperDigit (c.toNat / 16), Hexadecimal.upperDigit (c.toNat % 16), [], ?_,
      table c.toNat (List.mem_range.2 (by omega)) (by rwa [Char.ofNat_toNat])⟩
    rw [Percent.encodeChar, Utf8.encodeChar_one hone, List.flatMap_cons, Percent.encodeByte, hbyte]
    rfl
  · obtain ⟨b, bytes, hbytes, -⟩ := Utf8.start_encodeChar c
    have hhigh := Utf8.le_of_mem_encodeChar hone (hbytes ▸ List.mem_cons_self)
    have table : ∀ k ∈ List.range 16, 8 ≤ k → (Hexadecimal.upperDigit k).toLower ≠ '2' := by
      decide
    have hbound := b.toNat_lt
    refine ⟨Hexadecimal.upperDigit (b.toNat / 16), Hexadecimal.upperDigit (b.toNat % 16),
      bytes.flatMap Percent.encodeByte, ?_, fun hboth => ?_⟩
    · rw [Percent.encodeChar, hbytes, List.flatMap_cons, Percent.encodeByte]
      rfl
    · exact table (b.toNat / 16) (List.mem_range.2 (by omega)) (by omega) hboth.1

/-- What is not a percent sign in an encoded text stands for itself. -/
theorem lowerAscii_encode_cons {x : Char} (hx : x ≠ '%')
    (h : Text.lowerAscii (Percent.encode Percent.path s) = x :: t) :
    ∃ c rest, s = c :: rest ∧ c.toLower = x ∧
      Text.lowerAscii (Percent.encode Percent.path rest) = t := by
  cases s with
  | nil => cases h
  | cons c rest =>
    by_cases hpath : Percent.path c = true
    · obtain ⟨high, low, more, hchar, -⟩ := encodeChar_path hpath
      rw [Percent.encode_cons, if_pos hpath, hchar] at h
      exact absurd (List.cons.inj h).1.symm hx
    · rw [Percent.encode_cons, if_neg hpath] at h
      obtain ⟨hc, hrest⟩ := List.cons.inj h
      exact ⟨c, rest, rfl, hc, hrest⟩

/-- Encoding makes no dots. -/
theorem lowerAscii_of_isDots (hdots : IsDots t)
    (h : Text.lowerAscii (Percent.encode Percent.path s) = t) : Text.lowerAscii s = t := by
  induction hdots generalizing s with
  | nil =>
    cases s with
    | nil => rfl
    | cons c rest =>
      exact absurd (List.map_eq_nil_iff.1 h) (Percent.encode_ne_nil (List.cons_ne_nil c rest))
  | dot _ ih =>
    obtain ⟨c, rest, rfl, hc, hrest⟩ := lowerAscii_encode_cons (by decide) h
    exact List.cons_eq_cons.2 ⟨hc, ih hrest⟩
  | encoded _ ih =>
    cases s with
    | nil => cases h
    | cons c rest =>
      -- The percent sign is one of the text, or it starts an encoded character.
      by_cases hpath : Percent.path c = true
      · obtain ⟨high, low, more, hchar, hother⟩ := encodeChar_path hpath
        rw [Percent.encode_cons, if_pos hpath, hchar] at h
        obtain ⟨-, h⟩ := List.cons.inj h
        obtain ⟨hhigh, h⟩ := List.cons.inj h
        exact absurd ⟨hhigh, (List.cons.inj h).1⟩ hother
      · rw [Percent.encode_cons, if_neg hpath] at h
        obtain ⟨hc, h⟩ := List.cons.inj h
        obtain ⟨d, rest, rfl, hd, h⟩ := lowerAscii_encode_cons (by decide) h
        obtain ⟨e, rest, rfl, he, h⟩ := lowerAscii_encode_cons (by decide) h
        show c.toLower :: d.toLower :: e.toLower :: Text.lowerAscii rest = _
        rw [hc, hd, he, ih h]

theorem isSingleDot_of_encode (h : isSingleDot (Percent.encode Percent.path s) = true) :
    isSingleDot s = true := by
  have hwords : ∀ word ∈ [['.'], ['%', '2', 'e']], IsDots word := by
    intro word hword
    simp only [List.mem_cons, List.not_mem_nil, or_false] at hword
    rcases hword with rfl | rfl
    · exact .dot .nil
    · exact .encoded .nil
  obtain ⟨word, hword, hlower⟩ := (isSingleDot_iff _).1 h
  exact (isSingleDot_iff _).2 ⟨word, hword, lowerAscii_of_isDots (hwords word hword) hlower⟩

theorem isDoubleDot_of_encode (h : isDoubleDot (Percent.encode Percent.path s) = true) :
    isDoubleDot s = true := by
  have hwords : ∀ word ∈ [['.', '.'], ['.', '%', '2', 'e'], ['%', '2', 'e', '.'],
      ['%', '2', 'e', '%', '2', 'e']], IsDots word := by
    intro word hword
    simp only [List.mem_cons, List.not_mem_nil, or_false] at hword
    rcases hword with rfl | rfl | rfl | rfl
    · exact .dot (.dot .nil)
    · exact .dot (.encoded .nil)
    · exact .encoded (.dot .nil)
    · exact .encoded (.encoded .nil)
  obtain ⟨word, hword, hlower⟩ := (isDoubleDot_iff _).1 h
  exact (isDoubleDot_iff _).2 ⟨word, hword, lowerAscii_of_isDots (hwords word hword) hlower⟩

/-! ### Settled segments -/

/-- The segment stays as it is when it is read in a path of an address of the web. -/
structure IsSettled (segment : Text) : Prop where
  chars : ∀ c ∈ segment, Percent.path c = false ∧ c ≠ '/' ∧ c ≠ '\\'
  not_single : isSingleDot segment = false
  not_double : isDoubleDot segment = false

instance (segment : Text) : Decidable (IsSettled segment) :=
  decidable_of_iff ((∀ c ∈ segment, Percent.path c = false ∧ c ≠ '/' ∧ c ≠ '\\') ∧
      isSingleDot segment = false ∧ isDoubleDot segment = false)
    ⟨fun h => ⟨h.1, h.2.1, h.2.2⟩, fun h => ⟨h.chars, h.not_single, h.not_double⟩⟩

/-- The characters of settled segments and of the slashes between them. -/
theorem mem_of_isSettled (h : ∀ s ∈ Text.splitAll '/' t, IsSettled s) (hc : c ∈ t) :
    Percent.path c = false ∧ c ≠ '\\' := by
  rw [← Text.join_splitAll '/' t] at hc
  rcases Text.mem_join hc with rfl | ⟨part, hpart, hc⟩
  · exact ⟨by decide, by decide⟩
  · obtain ⟨hpath, -, hback⟩ := (h part hpart).chars c hc
    exact ⟨hpath, hback⟩

theorem isSettled_nil : IsSettled [] where
  chars := fun _ hc => absurd hc List.not_mem_nil
  not_single := by decide +kernel
  not_double := by decide +kernel

theorem splitSegments_ne_nil (special : Bool) (t : Text) : splitSegments special t ≠ [] := by
  cases t with
  | nil => exact List.cons_ne_nil _ _
  | cons c rest =>
    rw [splitSegments]
    split
    · exact List.cons_ne_nil _ _
    · split <;> exact List.cons_ne_nil _ _

theorem mem_splitSegments {segment : Text} (h : segment ∈ splitSegments true t) :
    ∀ c ∈ segment, c ≠ '/' ∧ c ≠ '\\' := by
  induction t generalizing segment with
  | nil =>
    rw [List.mem_singleton.1 h]
    exact fun _ hc => absurd hc List.not_mem_nil
  | cons d rest ih =>
    rw [splitSegments] at h
    split at h
    · rcases List.mem_cons.1 h with rfl | hlater
      · exact fun _ hc => absurd hc List.not_mem_nil
      · exact ih hlater
    · next hslash =>
      have hd : d ≠ '/' ∧ d ≠ '\\' := by
        simpa [isSlash] using hslash
      split at h
      · rw [List.mem_singleton.1 h]
        intro c hc
        rw [List.mem_singleton.1 hc]
        exact hd
      · next first segments hsplit =>
        rcases List.mem_cons.1 h with rfl | hlater
        · intro c hc
          rcases List.mem_cons.1 hc with rfl | hc
          · exact hd
          · exact ih (hsplit ▸ List.mem_cons_self) c hc
        · exact ih (hsplit ▸ List.mem_cons_of_mem _ hlater)

/-- Encoding settles a segment that is no dot segment. -/
theorem isSettled_encode (hchars : ∀ c ∈ s, c ≠ '/' ∧ c ≠ '\\') (hsingle : ¬isSingleDot s = true)
    (hdouble : ¬isDoubleDot s = true) : IsSettled (Percent.encode Percent.path s) where
  chars c hc := by
    refine ⟨Percent.not_mem_set_of_mem_encode Percent.spares_path hc, ?_⟩
    rcases Percent.mem_encode hc with ⟨hin, -⟩ | hsign
    · exact hchars c hin
    · have table : ∀ c ∈ Percent.signs, c ≠ '/' ∧ c ≠ '\\' := by decide
      exact table c hsign
  not_single := Bool.eq_false_iff.2 fun h => hsingle (isSingleDot_of_encode h)
  not_double := Bool.eq_false_iff.2 fun h => hdouble (isDoubleDot_of_encode h)

theorem directoryAbove_subset (segments : List Text) : directoryAbove segments ⊆ segments := by
  unfold directoryAbove
  split
  · exact List.Subset.refl _
  · exact (List.dropLast_sublist segments).subset

theorem splitSegments_eq_splitAll (h : '\\' ∉ t) : splitSegments true t = Text.splitAll '/' t := by
  induction t with
  | nil => rfl
  | cons c rest ih =>
    obtain ⟨hc, hrest⟩ := List.ne_and_not_mem_of_not_mem_cons h
    have hslash : isSlash true c = true ↔ c = '/' := by
      simp [isSlash, Ne.symm hc]
    rw [splitSegments, Text.splitAll, ih hrest]
    by_cases hsep : c = '/'
    · rw [if_pos (hslash.2 hsep), if_pos hsep]
    · rewrite [if_neg fun h => hsep (hslash.1 h), if_neg hsep]
      split <;> simp_all

theorem flatMap_slash {segments : List Text} (h : segments ≠ []) :
    segments.flatMap (fun segment => '/' :: segment) = '/' :: Text.join ['/'] segments := by
  induction segments with
  | nil => exact absurd rfl h
  | cons segment rest ih =>
    cases rest with
    | nil => simp [Text.join]
    | cons next more =>
      rw [List.flatMap_cons, ih (List.cons_ne_nil next more)]
      simp [Text.join]

theorem write_splitAll (t : Text) : (Path.segments (Text.splitAll '/' t)).write = '/' :: t := by
  rw [Path.write, flatMap_slash (Text.splitAll_ne_nil '/' t), Text.join_splitAll]

section Web

variable {scheme : Scheme} (hfile : scheme ≠ .file)

include hfile

theorem writeSegment_eq (before : List Text) (segment : Text) :
    writeSegment scheme before segment = Percent.encode Percent.path segment :=
  if_neg fun h => hfile h.1

/-- Resolving one segment leaves settled segments, and some of them if it was the last one. -/
theorem resolveSegments_step {before : List Text} {segment : Text} (rest : List Text)
    (hbefore : ∀ s ∈ before, IsSettled s) (hsegment : ∀ c ∈ segment, c ≠ '/' ∧ c ≠ '\\') :
    ∃ kept, resolveSegments scheme before (segment :: rest) = resolveSegments scheme kept rest ∧
      (∀ s ∈ kept, IsSettled s) ∧ (rest = [] → kept ≠ []) := by
  -- A dot segment at the end leaves an empty segment behind.
  have hended : ∀ kept : List Text, (∀ s ∈ kept, IsSettled s) →
      (∀ s ∈ kept ++ (if rest.isEmpty then [[]] else []), IsSettled s) ∧
        (rest = [] → kept ++ (if rest.isEmpty then [[]] else []) ≠ []) := by
    intro kept hkept
    refine ⟨fun s hs => ?_, ?_⟩
    · rcases List.mem_append.1 hs with hs | hs
      · exact hkept s hs
      · split at hs
        · rw [List.mem_singleton.1 hs]
          exact isSettled_nil
        · exact absurd hs List.not_mem_nil
    · rintro rfl
      exact List.append_ne_nil_of_right_ne_nil _ (List.cons_ne_nil _ _)
  rw [resolveSegments]
  split
  · exact ⟨_, rfl, hended _ fun s hs => hbefore s (directoryAbove_subset before hs)⟩
  split
  · exact ⟨_, rfl, hended before hbefore⟩
  · next hdouble hsingle =>
    refine ⟨_, rfl, fun s hs => ?_,
      fun _ => List.append_ne_nil_of_right_ne_nil _ (List.cons_ne_nil _ _)⟩
    rcases List.mem_append.1 hs with hs | hs
    · exact hbefore s hs
    · rw [List.mem_singleton.1 hs, writeSegment_eq hfile]
      exact isSettled_encode hsegment hsingle hdouble

/-- Resolved segments are settled, and there are some. -/
theorem resolveSegments_isSettled {raw before : List Text}
    (hraw : ∀ s ∈ raw, ∀ c ∈ s, c ≠ '/' ∧ c ≠ '\\') (hbefore : ∀ s ∈ before, IsSettled s) :
    (∀ s ∈ resolveSegments scheme before raw, IsSettled s) ∧
      (raw ≠ [] → resolveSegments scheme before raw ≠ []) := by
  induction raw generalizing before with
  | nil => exact ⟨hbefore, fun h => absurd rfl h⟩
  | cons segment rest ih =>
    obtain ⟨kept, hstep, hkept, hsome⟩ :=
      resolveSegments_step hfile rest hbefore (hraw segment List.mem_cons_self)
    obtain ⟨hsettled, hlater⟩ := ih (fun s hs => hraw s (List.mem_cons_of_mem segment hs)) hkept
    rw [hstep]
    refine ⟨hsettled, fun _ => ?_⟩
    cases rest with
    | nil => exact hsome rfl
    | cons next more => exact hlater (List.cons_ne_nil next more)

/-- Settled segments are resolved to themselves. -/
theorem resolveSegments_append {raw : List Text} (hraw : ∀ s ∈ raw, IsSettled s)
    (before more : List Text) :
    resolveSegments scheme before (raw ++ more) = resolveSegments scheme (before ++ raw) more := by
  induction raw generalizing before with
  | nil => rw [List.nil_append, List.append_nil]
  | cons segment rest ih =>
    have hsegment := hraw segment List.mem_cons_self
    have hself := Percent.encode_eq_self fun c hc => (hsegment.chars c hc).1
    rw [List.cons_append, resolveSegments, hsegment.not_double, if_neg Bool.false_ne_true,
      hsegment.not_single, if_neg Bool.false_ne_true, writeSegment_eq hfile, hself,
      ih fun s hs => hraw s (List.mem_cons_of_mem segment hs), List.append_assoc]
    rfl

theorem resolveSegments_eq {raw : List Text} (hraw : ∀ s ∈ raw, IsSettled s)
    (before : List Text) : resolveSegments scheme before raw = before ++ raw := by
  have happend := resolveSegments_append hfile hraw before []
  rwa [List.append_nil] at happend

/-! ### Whole paths -/

theorem readPath_isSettled (hspecial : scheme.isSpecial = true) (t : Text) :
    ∃ segments, readPath scheme t = .segments segments ∧ segments ≠ [] ∧
      ∀ s ∈ segments, IsSettled s := by
  have hnone : ∀ s ∈ ([] : List Text), IsSettled s := nofun
  obtain ⟨hsettled, hsome⟩ := resolveSegments_isSettled hfile
    (fun s hs => mem_splitSegments (t := dropSlash true t) hs) hnone
  refine ⟨_, ?_, hsome (splitSegments_ne_nil true _), hsettled⟩
  rw [readPath, hspecial, Bool.not_true, Bool.and_false, if_neg Bool.false_ne_true, readPathFrom,
    hspecial, trimSegments, if_neg hfile]

/-- The text of settled segments is read as that path. -/
theorem readPath_write (hspecial : scheme.isSpecial = true)
    (h : ∀ s ∈ Text.splitAll '/' t, IsSettled s) :
    (readPath scheme ('/' :: t)).write = '/' :: t := by
  have hback : '\\' ∉ t := fun hmem => (mem_of_isSettled h hmem).2 rfl
  have hpath : readPath scheme ('/' :: t) = .segments (Text.splitAll '/' t) := by
    rw [readPath, List.isEmpty_cons, Bool.false_and, if_neg Bool.false_ne_true, readPathFrom,
      trimSegments, if_neg hfile, hspecial]
    show Path.segments (resolveSegments scheme [] (splitSegments true t)) = _
    rw [splitSegments_eq_splitAll hback, resolveSegments_eq hfile h, List.nil_append]
  rw [hpath, write_splitAll]

end Web

end RestConformance.Url
