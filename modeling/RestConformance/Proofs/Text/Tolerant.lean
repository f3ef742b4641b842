import RestConformance.Proofs.Text.Utf8

/-!
# Tolerant reading of UTF-8

What tolerant reading makes of any bytes: characters as they are encoded, and a replacement for each
part that belongs to none. Such a part is as long as a start of a character can be.

## Main definitions

* `Utf8.Begins part` – the bytes of some character begin like that;
* `Utf8.IsBroken part rest` – a part that belongs to no character, before the bytes `rest`;
* `Utf8.Reads bytes t` – the bytes are characters and such parts, and the text has a character for
  each.

## Main results

* `Utf8.IsBroken.unique` – bytes start with at most one such part;
* `Utf8.decodeLossy_eq_iff` – tolerant reading is `Utf8.Reads`.
-/

namespace RestConformance.Utf8

variable {b b2 b3 b4 : UInt8} {part rest tail bytes : Bytes} {c d : Char} {t : Text}

/-- The bytes of some character begin with these. -/
def Begins (part : Bytes) : Prop :=
  ∃ c, part <+: String.utf8EncodeChar c

/-- They do, and more bytes are to come. -/
def IsStart (part : Bytes) : Prop :=
  ∃ c more, more ≠ [] ∧ String.utf8EncodeChar c = part ++ more

/-- The bytes `part` belong to no character where the bytes `rest` follow. -/
inductive IsBroken : Bytes → Bytes → Prop where
  /-- No character begins with that byte. -/
  | stray {b : UInt8} {rest : Bytes} : ¬Begins [b] → IsBroken [b] rest
  /-- A character begins so, but none goes on with the next byte. -/
  | cut {part rest : Bytes} : part ≠ [] → IsStart part →
    (∀ next, rest.head? = some next → ¬Begins (part ++ [next])) → IsBroken part rest

/-- Bytes as the characters they encode, with U+FFFD for each part that belongs to none. -/
inductive Reads : Bytes → Text → Prop where
  | nil : Reads [] []
  | char {rest : Bytes} {t : Text} (c : Char) :
    Reads rest t → Reads (String.utf8EncodeChar c ++ rest) (c :: t)
  /-- A part that belongs to no character comes first. -/
  | broken {part rest : Bytes} {t : Text} :
    IsBroken part rest → Reads rest t → Reads (part ++ rest) ('\uFFFD' :: t)

/-! ### Characters and their starts -/

theorem encodeChar_ne_nil (c : Char) : String.utf8EncodeChar c ≠ [] := by
  obtain ⟨b, tail, hbytes, -⟩ := start_encodeChar c
  simp [hbytes]

/-- No character begins with another one. -/
theorem encodeChar_prefix (h : String.utf8EncodeChar c <+: String.utf8EncodeChar d) :
    String.utf8EncodeChar c = String.utf8EncodeChar d := by
  obtain ⟨more, hmore⟩ := h
  obtain ⟨b, tail, hc, hstart⟩ := start_encodeChar c
  obtain ⟨b', tail', hd, hstart'⟩ := start_encodeChar d
  rw [hc, hd, List.cons_append] at hmore
  obtain ⟨rfl, rfl⟩ := List.cons.inj hmore
  have hsame := hstart' []
  rw [List.append_nil, hstart more] at hsame
  rw [(Start.char.inj hsame).1]

theorem Begins.of_prefix (h : Begins bytes) (hpart : part <+: bytes) : Begins part := by
  obtain ⟨c, hc⟩ := h
  exact ⟨c, hpart.trans hc⟩

theorem IsStart.begins (h : IsStart part) : Begins part := by
  obtain ⟨c, more, -, hbytes⟩ := h
  exact ⟨c, more, hbytes.symm⟩

theorem IsStart.of_append (h : IsStart (part ++ tail)) : IsStart part := by
  obtain ⟨c, more, hsome, hbytes⟩ := h
  exact ⟨c, tail ++ more, by simp [hsome], by rw [hbytes, List.append_assoc]⟩

/-- The start of a character is not all of one. -/
theorem IsStart.not_prefix (h : IsStart part) : ¬String.utf8EncodeChar c <+: part := by
  obtain ⟨d, more, hsome, hbytes⟩ := h
  rintro ⟨tail, rfl⟩
  rw [List.append_assoc] at hbytes
  have hsame := encodeChar_prefix ⟨tail ++ more, hbytes.symm⟩
  rw [hsame] at hbytes
  exact hsome (List.append_eq_nil_iff.1 (List.self_eq_append_right.1 hbytes)).2

/-- What is read as no character, whatever follows, is the beginning of none. -/
theorem not_begins (h : ∀ more, ∃ size, start b (tail ++ more) = .unreadable size) :
    ¬Begins (b :: tail) := by
  rintro ⟨c, more, hmore⟩
  obtain ⟨first, others, hbytes, hstart⟩ := start_encodeChar c
  rw [hbytes, List.cons_append] at hmore
  obtain ⟨rfl, rfl⟩ := List.cons.inj hmore
  obtain ⟨size, hsize⟩ := h more
  have hchar := hstart []
  rw [List.append_nil, hsize] at hchar
  cases hchar

/-! ### Parts that belong to no character -/

theorem IsBroken.ne_nil (h : IsBroken part rest) : part ≠ [] := by
  cases h with
  | stray _ => exact List.cons_ne_nil _ _
  | cut hsome _ _ => exact hsome

/-- The start of a character at the end of the bytes. -/
theorem IsBroken.at_end (hsome : part ≠ []) (h : IsStart part) : IsBroken part [] := by
  refine .cut hsome h fun next hnext => ?_
  cases hnext

/-- No longer part is broken at the same place. -/
theorem IsBroken.not_longer {next : UInt8} {more rest' : Bytes} (h : IsBroken part rest)
    (h' : IsBroken (part ++ next :: more) rest') (hnext : rest.head? = some next) : False := by
  have hsome := List.length_pos_iff.2 h.ne_nil
  generalize hwhole : part ++ next :: more = whole at h'
  cases h' with
  | stray _ =>
    have hlength := congrArg List.length hwhole
    simp only [List.length_append, List.length_cons, List.length_nil] at hlength
    omega
  | cut _ hstart _ =>
    subst hwhole
    cases h with
    | stray hnone => exact hnone (hstart.begins.of_prefix ⟨_, rfl⟩)
    | cut _ _ hstop => exact hstop next hnext (hstart.begins.of_prefix ⟨more, by simp⟩)

/-- Bytes start with at most one broken part. -/
theorem IsBroken.unique {part' rest' : Bytes} (h : IsBroken part rest) (h' : IsBroken part' rest')
    (heq : part ++ rest = part' ++ rest') : part = part' ∧ rest = rest' := by
  rcases List.append_eq_append_iff.1 heq with ⟨more, rfl, rfl⟩ | ⟨more, rfl, rfl⟩
  · cases more with
    | nil => simp
    | cons next more => exact (h.not_longer h' rfl).elim
  · cases more with
    | nil => simp
    | cons next more => exact (h'.not_longer h rfl).elim

/-- Bytes that start with a broken part do not start with a character. -/
theorem IsBroken.not_char (h : IsBroken part rest) :
    ¬String.utf8EncodeChar c <+: part ++ rest := by
  intro hchar
  -- The character would end within the part, or the part would go on with the next byte.
  cases h with
  | stray hnone =>
    obtain ⟨more, hmore⟩ := hchar
    obtain ⟨b', tail, hbytes⟩ := List.exists_cons_of_ne_nil (encodeChar_ne_nil c)
    rw [hbytes] at hmore
    obtain ⟨rfl, -⟩ := List.cons.inj hmore
    exact hnone ⟨c, tail, hbytes.symm⟩
  | cut _ hstart hstop =>
    rcases List.prefix_or_prefix_of_prefix hchar (List.prefix_append part rest) with hin | hin
    · exact hstart.not_prefix hin
    · obtain ⟨more, hmore⟩ := hin
      rw [← hmore, List.prefix_append_right_inj] at hchar
      cases more with
      | nil => exact hstart.not_prefix ⟨[], by simpa using hmore.symm⟩
      | cons next more =>
        obtain ⟨after, rfl⟩ := hchar
        exact hstop next rfl ⟨c, more, by simp [← hmore]⟩

/-! ### What is read as no character -/

section Unreadable

variable {low high size : Nat}

/-! Bytes in the ranges of a longer character are the start of one. -/

theorem isStart_three (h : following b.toNat = some (low, high, size))
    (hb2 : ¬(b2.toNat < low ∨ high < b2.toNat)) (hb3 : isTail b3 = true) (hsize : size ≠ 2)
    (hsize' : size ≠ 3) : IsStart [b, b2, b3] := by
  have hranges := following_eq_some h
  have hlast : (0x80 : UInt8).toNat = 0x80 := rfl
  exact ⟨_, [0x80], by simp, encodeChar_extend_four (by omega) (by omega) (isTail_iff.1 hb3)
    (by omega) (by omega) (by omega)⟩

theorem isStart_two (h : following b.toNat = some (low, high, size))
    (hb2 : ¬(b2.toNat < low ∨ high < b2.toNat)) (hsize : size ≠ 2) : IsStart [b, b2] := by
  have hranges := following_eq_some h
  have hlast : (0x80 : UInt8).toNat = 0x80 := rfl
  by_cases hthree : size = 3
  · exact ⟨_, [0x80], by simp, encodeChar_extend_three (by omega) (by omega) (by omega)
      (by omega) (by omega)⟩
  · have hlonger : IsStart ([b, b2] ++ [0x80]) := isStart_three h hb2 (by decide) hsize hthree
    exact hlonger.of_append

theorem isStart_one (h : following b.toNat = some (low, high, size)) : IsStart [b] := by
  have hranges := following_eq_some h
  have hlow : (UInt8.ofNat low).toNat = low := toNat_ofNat (by omega)
  by_cases htwo : size = 2
  · exact ⟨_, [.ofNat low], by simp, encodeChar_extend_two (by omega) (by omega)⟩
  · have hlonger : IsStart ([b] ++ [.ofNat low]) := isStart_two h (by omega) htwo
    exact hlonger.of_append

/-! Where the next byte is in none of the ranges, reading stops, whatever comes behind it. -/

variable (hb : ¬b.toNat < 0x80)

include hb

theorem start_stray (h : following b.toNat = none) (rest : Bytes) :
    start b rest = .unreadable 1 := by
  rw [start, if_neg hb, h]

theorem start_second (h : following b.toNat = some (low, high, size))
    (hb2 : b2.toNat < low ∨ high < b2.toNat) (rest : Bytes) :
    start b (b2 :: rest) = .unreadable 1 := by
  rw [start, if_neg hb, h]
  exact if_pos hb2

theorem start_third (h : following b.toNat = some (low, high, size))
    (hb2 : ¬(b2.toNat < low ∨ high < b2.toNat)) (hsize : size ≠ 2) (hb3 : (!isTail b3) = true)
    (rest : Bytes) : start b (b2 :: b3 :: rest) = .unreadable 2 := by
  rw [start, if_neg hb, h]
  dsimp only
  rw [if_neg hb2, if_neg hsize, if_pos hb3]

theorem start_fourth (h : following b.toNat = some (low, high, size))
    (hb2 : ¬(b2.toNat < low ∨ high < b2.toNat)) (hsize : size ≠ 2) (hb3 : ¬(!isTail b3) = true)
    (hsize' : size ≠ 3) (hb4 : (!isTail b4) = true) (rest : Bytes) :
    start b (b2 :: b3 :: b4 :: rest) = .unreadable 3 := by
  rw [start, if_neg hb, h]
  dsimp only
  rw [if_neg hb2, if_neg hsize, if_neg hb3, if_neg hsize', if_pos hb4]

end Unreadable

/-- What is read as no character is a part that belongs to none. -/
theorem start_eq_unreadable {size : Nat} (h : start b rest = .unreadable size) :
    ∃ tail more, rest = tail ++ more ∧ size = tail.length + 1 ∧ IsBroken (b :: tail) more := by
  -- There is a case for each place where reading stops: at the end, or before a byte.
  unfold start at h
  split at h
  · cases h
  next hb =>
  split at h
  · next hnone =>
    obtain rfl := Start.unreadable.inj h
    exact ⟨[], rest, rfl, rfl, .stray (not_begins fun more => ⟨1, start_stray hb hnone _⟩)⟩
  next low high count hfollowing =>
  have hone := isStart_one hfollowing
  split at h
  · obtain rfl := Start.unreadable.inj h
    exact ⟨[], [], rfl, rfl, .at_end (by simp) hone⟩
  next b2 rest2 =>
  split at h
  · next hout =>
    obtain rfl := Start.unreadable.inj h
    refine ⟨[], b2 :: rest2, rfl, rfl, .cut (by simp) hone ?_⟩
    rintro _ ⟨⟩
    exact not_begins fun more => ⟨1, start_second hb hfollowing hout _⟩
  next hin =>
  split at h
  · cases h
  next hsize =>
  have htwo := isStart_two hfollowing hin hsize
  split at h
  · obtain rfl := Start.unreadable.inj h
    exact ⟨[b2], [], rfl, rfl, .at_end (by simp) htwo⟩
  next b3 rest3 =>
  split at h
  · next hout3 =>
    obtain rfl := Start.unreadable.inj h
    refine ⟨[b2], b3 :: rest3, rfl, rfl, .cut (by simp) htwo ?_⟩
    rintro _ ⟨⟩
    exact not_begins fun more => ⟨2, start_third hb hfollowing hin hsize hout3 _⟩
  next hin3 =>
  split at h
  · cases h
  next hsize' =>
  have htail : isTail b3 = true := by simpa using hin3
  have hthree := isStart_three hfollowing hin htail hsize hsize'
  split at h
  · obtain rfl := Start.unreadable.inj h
    exact ⟨[b2, b3], [], rfl, rfl, .at_end (by simp) hthree⟩
  next b4 rest4 =>
  split at h
  · next hout4 =>
    obtain rfl := Start.unreadable.inj h
    refine ⟨[b2, b3], b4 :: rest4, rfl, rfl, .cut (by simp) hthree ?_⟩
    rintro _ ⟨⟩
    exact not_begins fun more => ⟨3, start_fourth hb hfollowing hin hsize hin3 hsize' hout4 _⟩
  · cases h

/-! ### Whole texts -/

theorem reads_decodeLossy (bytes : Bytes) : Reads bytes (decodeLossy bytes) := by
  induction bytes using decodeLossy.induct with
  | case1 =>
    rw [decodeLossy]
    exact .nil
  | case2 b rest c size hstart ih =>
    obtain ⟨tail, more, rfl, rfl, hbytes⟩ := start_eq_char hstart
    rw [Nat.add_sub_cancel, List.drop_left] at ih
    rw [decodeLossy, hstart]
    dsimp only
    rw [Nat.add_sub_cancel, List.drop_left, ← List.cons_append, ← hbytes]
    exact .char c ih
  | case3 b rest size hstart ih =>
    obtain ⟨tail, more, rfl, rfl, hbroken⟩ := start_eq_unreadable hstart
    rw [Nat.add_sub_cancel, List.drop_left] at ih
    rw [decodeLossy, hstart]
    dsimp only
    rw [Nat.add_sub_cancel, List.drop_left, ← List.cons_append]
    exact .broken hbroken ih

/-- A part that belongs to no character is read as such. -/
theorem IsBroken.start_eq (h : IsBroken (b :: tail) rest) :
    start b (tail ++ rest) = .unreadable (tail.length + 1) := by
  cases hstart : start b (tail ++ rest) with
  | char c size =>
    obtain ⟨more, after, hsplit, -, hbytes⟩ := start_eq_char hstart
    refine absurd ⟨after, ?_⟩ (h.not_char (c := c))
    rw [hbytes, List.cons_append, List.cons_append, hsplit]
  | unreadable size =>
    obtain ⟨more, after, hsplit, rfl, hbroken⟩ := start_eq_unreadable hstart
    have hsame := h.unique hbroken (congrArg (b :: ·) hsplit)
    rw [(List.cons.inj hsame.1).2]

/-- Tolerant reading gives the characters that are encoded, and a replacement for each part that
belongs to none. -/
theorem decodeLossy_eq_iff : decodeLossy bytes = t ↔ Reads bytes t := by
  constructor
  · rintro rfl
    exact reads_decodeLossy bytes
  · intro h
    induction h with
    | nil => rw [decodeLossy]
    | @char rest t c _ ih =>
      obtain ⟨b, tail, hbytes, hstart⟩ := start_encodeChar c
      rw [hbytes, List.cons_append, decodeLossy, hstart]
      dsimp only
      rw [Nat.add_sub_cancel, List.drop_left, ih]
    | @broken part rest t hbroken _ ih =>
      obtain ⟨b, tail, rfl⟩ := List.exists_cons_of_ne_nil hbroken.ne_nil
      rw [List.cons_append, decodeLossy, hbroken.start_eq]
      dsimp only
      rw [Nat.add_sub_cancel, List.drop_left, ih]

end RestConformance.Utf8
