import RestConformance.Text.Bytes

/-!
# Reading back UTF-8

The bytes of a text read back as the text, whether bytes that cannot be read are tolerated or not.

## Main results

* `Utf8.start_encodeChar` – the bytes of a character are read as that character, whatever follows;
* `Utf8.decode?_encode` – the bytes of a text are read as that text;
* `Utf8.decode?_eq_some_iff` – no other bytes are;
* `Utf8.decodeLossy_of_decode?` – tolerant reading reads the same where strict reading does.
-/

namespace RestConformance.Utf8

theorem toNat_ofNat {n : Nat} (h : n < 256) : (UInt8.ofNat n).toNat = n :=
  UInt8.toNat_ofNat_of_lt h

/-- What holds of all numbers of a byte holds of all bytes. -/
theorem forall_byte {p : UInt8 → Prop} (table : ∀ n ∈ List.range 256, p (.ofNat n)) (b : UInt8) :
    p b := by
  have h := table b.toNat (List.mem_range.2 b.toNat_lt)
  rwa [UInt8.ofNat_toNat] at h

/-- The code points of characters leave out the surrogates. -/
theorem toNat_bounds (c : Char) :
    c.toNat < 0xD800 ∨ 0xE000 ≤ c.toNat ∧ c.toNat < 0x110000 := by
  rcases c.valid with hlow | ⟨hlow, hhigh⟩
  · exact .inl hlow
  · exact .inr ⟨Nat.succ_le_of_lt hlow, hhigh⟩

/-! ### First bytes -/

theorem following_two {n : Nat} (h : 0xC2 ≤ n ∧ n ≤ 0xDF) :
    following n = some (0x80, 0xBF, 2) := by
  rw [following, if_pos h]

/-- Among the first bytes of three, the lowest one excludes what two bytes can write, and one other
the surrogates. -/
theorem following_three {n : Nat} (h : 0xE0 ≤ n ∧ n ≤ 0xEF) :
    following n = some (if n = 0xE0 then 0xA0 else 0x80, if n = 0xED then 0x9F else 0xBF, 3) := by
  rw [following, if_neg (by omega)]
  by_cases hlowest : n = 0xE0
  · rw [if_pos hlowest, if_pos hlowest, if_neg (by omega)]
  · rw [if_neg hlowest, if_neg hlowest]
    by_cases hsurrogates : n = 0xED
    · rw [if_pos hsurrogates, if_pos hsurrogates]
    · rw [if_neg hsurrogates, if_neg hsurrogates, if_pos (by omega)]

/-- Among the first bytes of four, the lowest one excludes what three bytes can write, and the
highest one what is no code point. -/
theorem following_four {n : Nat} (h : 0xF0 ≤ n ∧ n ≤ 0xF4) :
    following n = some (if n = 0xF0 then 0x90 else 0x80, if n = 0xF4 then 0x8F else 0xBF, 4) := by
  rw [following, if_neg (by omega), if_neg (by omega), if_neg (by omega), if_neg (by omega)]
  by_cases hlowest : n = 0xF0
  · rw [if_pos hlowest, if_pos hlowest, if_neg (by omega)]
  · rw [if_neg hlowest, if_neg hlowest]
    by_cases hhighest : n = 0xF4
    · rw [if_neg (by omega), if_pos hhighest, if_pos hhighest]
    · rw [if_pos (by omega), if_neg hhighest]

/-! ### The bytes of a character -/

theorem encodeChar_one {c : Char} (h : c.toNat ≤ 0x7F) :
    String.utf8EncodeChar c = [.ofNat c.toNat] :=
  if_pos h

theorem encodeChar_two {c : Char} (h : 0x7F < c.toNat ∧ c.toNat ≤ 0x7FF) :
    String.utf8EncodeChar c =
      [.ofNat (c.toNat / 64 % 32 + 0xC0), .ofNat (c.toNat % 64 + 0x80)] := by
  have hone : ¬c.val.toNat ≤ 0x7F := Nat.not_le_of_lt h.1
  have htwo : c.val.toNat ≤ 0x7FF := h.2
  rw [String.utf8EncodeChar, if_neg hone, if_pos htwo]
  rfl

theorem encodeChar_three {c : Char} (h : 0x7FF < c.toNat ∧ c.toNat ≤ 0xFFFF) :
    String.utf8EncodeChar c = [.ofNat (c.toNat / 4096 % 16 + 0xE0),
      .ofNat (c.toNat / 64 % 64 + 0x80), .ofNat (c.toNat % 64 + 0x80)] := by
  have htwo : ¬c.val.toNat ≤ 0x7FF := Nat.not_le_of_lt h.1
  have hthree : c.val.toNat ≤ 0xFFFF := h.2
  rw [String.utf8EncodeChar, if_neg (by omega), if_neg htwo, if_pos hthree]
  rfl

theorem encodeChar_four {c : Char} (h : 0xFFFF < c.toNat) :
    String.utf8EncodeChar c = [.ofNat (c.toNat / 262144 % 8 + 0xF0),
      .ofNat (c.toNat / 4096 % 64 + 0x80), .ofNat (c.toNat / 64 % 64 + 0x80),
      .ofNat (c.toNat % 64 + 0x80)] := by
  have hthree : ¬c.val.toNat ≤ 0xFFFF := Nat.not_le_of_lt h
  rw [String.utf8EncodeChar, if_neg (by omega), if_neg (by omega), if_neg hthree]
  rfl

/-- No byte of a character beyond ASCII is one of ASCII. -/
theorem le_of_mem_encodeChar {c : Char} {b : UInt8} (h : ¬c.toNat ≤ 0x7F)
    (hb : b ∈ String.utf8EncodeChar c) : 0x80 ≤ b.toNat := by
  have hhigh : ∀ n : Nat, 0x80 ≤ n → n < 256 → b = .ofNat n → 0x80 ≤ b.toNat := by
    rintro n hlow hlt rfl
    rwa [toNat_ofNat hlt]
  have hbounds := toNat_bounds c
  by_cases htwo : c.toNat ≤ 0x7FF
  · rw [encodeChar_two (by omega)] at hb
    simp only [List.mem_cons, List.not_mem_nil, or_false] at hb
    rcases hb with hb | hb <;> exact hhigh _ (by omega) (by omega) hb
  by_cases hthree : c.toNat ≤ 0xFFFF
  · rw [encodeChar_three (by omega)] at hb
    simp only [List.mem_cons, List.not_mem_nil, or_false] at hb
    rcases hb with hb | hb | hb <;> exact hhigh _ (by omega) (by omega) hb
  · rw [encodeChar_four (by omega)] at hb
    simp only [List.mem_cons, List.not_mem_nil, or_false] at hb
    rcases hb with hb | hb | hb | hb <;> exact hhigh _ (by omega) (by omega) hb

theorem isTail_ofNat {n : Nat} (h : n < 64) : isTail (UInt8.ofNat (n + 0x80)) = true := by
  rw [isTail, toNat_ofNat (by omega), Bool.and_eq_true, decide_eq_true_eq, decide_eq_true_eq]
  omega

theorem extend_ofNat (m : Nat) {n : Nat} (h : n < 64) :
    extend m (UInt8.ofNat (n + 0x80)) = m * 64 + n := by
  have hbyte : (UInt8.ofNat (n + 0x80)).toNat = n + 0x80 := toNat_ofNat (by omega)
  show m * 64 + ((UInt8.ofNat (n + 0x80)).toNat - 0x80) = m * 64 + n
  rw [hbyte]
  omega

/-! ### Reading a character -/

theorem start_one {n : Nat} (h : n ≤ 0x7F) (more : Bytes) :
    start (.ofNat n) more = .char (Char.ofNat n) 1 := by
  rw [start, toNat_ofNat (by omega), if_pos (by omega)]

theorem start_two {a b : Nat} (ha : 2 ≤ a ∧ a < 32) (hb : b < 64) (more : Bytes) :
    start (.ofNat (a + 0xC0)) (.ofNat (b + 0x80) :: more) = .char (Char.ofNat (a * 64 + b)) 2 := by
  rw [start, toNat_ofNat (by omega), if_neg (by omega), following_two (by omega)]
  dsimp only
  rw [toNat_ofNat (by omega), if_neg (by omega), if_pos rfl, extend_ofNat _ hb,
    Nat.add_sub_cancel]

theorem start_three {a b c : Nat} (ha : a < 16) (hb : b < 64) (hc : c < 64)
    (hlowest : a = 0 → 32 ≤ b) (hsurrogates : a = 13 → b < 32) (more : Bytes) :
    start (.ofNat (a + 0xE0)) (.ofNat (b + 0x80) :: .ofNat (c + 0x80) :: more) =
      .char (Char.ofNat ((a * 64 + b) * 64 + c)) 3 := by
  rw [start, toNat_ofNat (by omega), if_neg (by omega), following_three (by omega)]
  dsimp only
  rw [toNat_ofNat (by omega), if_neg (by split <;> split <;> omega), if_neg (by decide),
    isTail_ofNat hc, if_neg (by decide), if_pos rfl, extend_ofNat _ hb, extend_ofNat _ hc,
    Nat.add_sub_cancel]

theorem start_four {a b c d : Nat} (ha : a ≤ 4) (hb : b < 64) (hc : c < 64) (hd : d < 64)
    (hlowest : a = 0 → 16 ≤ b) (hhighest : a = 4 → b < 16) (more : Bytes) :
    start (.ofNat (a + 0xF0))
        (.ofNat (b + 0x80) :: .ofNat (c + 0x80) :: .ofNat (d + 0x80) :: more) =
      .char (Char.ofNat (((a * 64 + b) * 64 + c) * 64 + d)) 4 := by
  rw [start, toNat_ofNat (by omega), if_neg (by omega), following_four (by omega)]
  dsimp only
  rw [toNat_ofNat (by omega), if_neg (by split <;> split <;> omega), if_neg (by decide),
    isTail_ofNat hc, if_neg (by decide), if_neg (by decide), isTail_ofNat hd, if_neg (by decide),
    extend_ofNat _ hb, extend_ofNat _ hc, extend_ofNat _ hd, Nat.add_sub_cancel]

/-- The bytes of a character are read as that character, whatever follows. -/
theorem start_encodeChar (c : Char) : ∃ b rest, String.utf8EncodeChar c = b :: rest ∧
    ∀ more, start b (rest ++ more) = .char c (rest.length + 1) := by
  have hbounds := toNat_bounds c
  have hself : ∀ n, n = c.toNat → Char.ofNat n = c := by
    rintro _ rfl
    exact Char.ofNat_toNat c
  -- There is a case for each number of bytes, from one to four.
  by_cases hone : c.toNat ≤ 0x7F
  · refine ⟨_, _, encodeChar_one hone, fun more => (start_one hone _).trans ?_⟩
    rw [hself _ rfl]
    rfl
  by_cases htwo : c.toNat ≤ 0x7FF
  · refine ⟨_, _, encodeChar_two (by omega), fun more => ?_⟩
    refine (start_two (by omega) (Nat.mod_lt _ (by decide)) more).trans ?_
    rw [hself _ (by omega)]
    rfl
  by_cases hthree : c.toNat ≤ 0xFFFF
  · refine ⟨_, _, encodeChar_three (by omega), fun more => ?_⟩
    refine (start_three (by omega) (Nat.mod_lt _ (by decide)) (Nat.mod_lt _ (by decide))
      (by omega) (by omega) more).trans ?_
    rw [hself _ (by omega)]
    rfl
  · refine ⟨_, _, encodeChar_four (by omega), fun more => ?_⟩
    refine (start_four (by omega) (Nat.mod_lt _ (by decide)) (Nat.mod_lt _ (by decide))
      (Nat.mod_lt _ (by decide)) (by omega) (by omega) more).trans ?_
    rw [hself _ (by omega)]
    rfl

theorem encode_cons (c : Char) (t : Text) : encode (c :: t) = String.utf8EncodeChar c ++ encode t :=
  rfl

/-- The bytes of a text are read as that text. -/
theorem decode?_encode (t : Text) : decode? (encode t) = some t := by
  induction t with
  | nil =>
    rw [show encode [] = [] from rfl, decode?]
  | cons c t ih =>
    obtain ⟨b, rest, hbytes, hstart⟩ := start_encodeChar c
    rw [encode_cons, hbytes, List.cons_append, decode?, hstart]
    dsimp only
    rw [Nat.add_sub_cancel, List.drop_left, ih]
    rfl

/-- Texts are told apart by their bytes. -/
theorem encode_injective : Function.Injective encode := by
  intro s t heq
  have hread := decode?_encode t
  rw [← heq, decode?_encode] at hread
  exact Option.some.inj hread

/-! ### Strict reading -/

section Strict

variable {b b2 b3 b4 : UInt8} {rest : Bytes} {c : Char} {low high size : Nat}

/-- The ranges of the first and of the second byte, by the number of bytes. -/
theorem following_eq_some {first : Nat} (h : following first = some (low, high, size)) :
    size = 2 ∧ 0xC2 ≤ first ∧ first ≤ 0xDF ∧ low = 0x80 ∧ high = 0xBF ∨
      size = 3 ∧ 0xE0 ≤ first ∧ first ≤ 0xEF ∧ 0x80 ≤ low ∧ low ≤ high ∧ high ≤ 0xBF ∧
        (first = 0xE0 → 0xA0 ≤ low) ∧ (first = 0xED → high ≤ 0x9F) ∨
      size = 4 ∧ 0xF0 ≤ first ∧ first ≤ 0xF4 ∧ 0x80 ≤ low ∧ low ≤ high ∧ high ≤ 0xBF ∧
        (first = 0xF0 → 0x90 ≤ low) ∧ (first = 0xF4 → high ≤ 0x8F) := by
  unfold following at h
  repeat' split at h
  all_goals cases h
  all_goals omega

theorem ofNat_eq {n : Nat} (h : n = b.toNat) : UInt8.ofNat n = b := by
  rw [h, UInt8.ofNat_toNat]

theorem toNat_ofNat_scalar {n : Nat} (h : n < 0xD800 ∨ 0xE000 ≤ n ∧ n < 0x110000) :
    (Char.ofNat n).toNat = n := by
  have hvalid : n.isValidChar := by
    rcases h with hlow | ⟨hlow, hhigh⟩
    · exact .inl hlow
    · exact .inr ⟨hlow, hhigh⟩
  rw [Char.ofNat, dif_pos hvalid]
  rfl

theorem isTail_iff : isTail b = true ↔ 0x80 ≤ b.toNat ∧ b.toNat ≤ 0xBF := by
  simp [isTail]

theorem encodeChar_extend_two (hb : 0xC2 ≤ b.toNat ∧ b.toNat ≤ 0xDF)
    (hb2 : 0x80 ≤ b2.toNat ∧ b2.toNat ≤ 0xBF) :
    String.utf8EncodeChar (Char.ofNat (extend (b.toNat - 0xC0) b2)) = [b, b2] := by
  have hnat : (Char.ofNat (extend (b.toNat - 0xC0) b2)).toNat =
      (b.toNat - 0xC0) * 64 + (b2.toNat - 0x80) := toNat_ofNat_scalar (by unfold extend; omega)
  rw [encodeChar_two (by omega), hnat, ofNat_eq (b := b) (by omega), ofNat_eq (b := b2) (by omega)]

theorem encodeChar_extend_three (hb : 0xE0 ≤ b.toNat ∧ b.toNat ≤ 0xEF)
    (hb2 : 0x80 ≤ b2.toNat ∧ b2.toNat ≤ 0xBF) (hb3 : 0x80 ≤ b3.toNat ∧ b3.toNat ≤ 0xBF)
    (hlowest : b.toNat = 0xE0 → 0xA0 ≤ b2.toNat)
    (hsurrogates : b.toNat = 0xED → b2.toNat ≤ 0x9F) :
    String.utf8EncodeChar (Char.ofNat (extend (extend (b.toNat - 0xE0) b2) b3)) = [b, b2, b3] := by
  have hnat : (Char.ofNat (extend (extend (b.toNat - 0xE0) b2) b3)).toNat =
      ((b.toNat - 0xE0) * 64 + (b2.toNat - 0x80)) * 64 + (b3.toNat - 0x80) :=
    toNat_ofNat_scalar (by unfold extend; omega)
  rw [encodeChar_three (by omega), hnat, ofNat_eq (b := b) (by omega),
    ofNat_eq (b := b2) (by omega), ofNat_eq (b := b3) (by omega)]

theorem encodeChar_extend_four (hb : 0xF0 ≤ b.toNat ∧ b.toNat ≤ 0xF4)
    (hb2 : 0x80 ≤ b2.toNat ∧ b2.toNat ≤ 0xBF) (hb3 : 0x80 ≤ b3.toNat ∧ b3.toNat ≤ 0xBF)
    (hb4 : 0x80 ≤ b4.toNat ∧ b4.toNat ≤ 0xBF) (hlowest : b.toNat = 0xF0 → 0x90 ≤ b2.toNat)
    (hhighest : b.toNat = 0xF4 → b2.toNat ≤ 0x8F) :
    String.utf8EncodeChar (Char.ofNat (extend (extend (extend (b.toNat - 0xF0) b2) b3) b4)) =
      [b, b2, b3, b4] := by
  have hnat : (Char.ofNat (extend (extend (extend (b.toNat - 0xF0) b2) b3) b4)).toNat =
      (((b.toNat - 0xF0) * 64 + (b2.toNat - 0x80)) * 64 + (b3.toNat - 0x80)) * 64 +
        (b4.toNat - 0x80) := toNat_ofNat_scalar (by unfold extend; omega)
  rw [encodeChar_four (by omega), hnat, ofNat_eq (b := b) (by omega), ofNat_eq (b := b2) (by omega),
    ofNat_eq (b := b3) (by omega), ofNat_eq (b := b4) (by omega)]

/-- What is read as a character is the bytes of that character and whatever follows. -/
theorem start_eq_char (h : start b rest = .char c size) :
    ∃ tail more, rest = tail ++ more ∧ size = tail.length + 1 ∧
      String.utf8EncodeChar c = b :: tail := by
  -- There is a case for each length that a code can have, one byte to four.
  unfold start at h
  split at h
  · next hone =>
    obtain ⟨rfl, rfl⟩ := Start.char.inj h
    have hnat : (Char.ofNat b.toNat).toNat = b.toNat := toNat_ofNat_scalar (by omega)
    refine ⟨[], rest, rfl, rfl, ?_⟩
    rw [encodeChar_one (by omega), ofNat_eq hnat]
  split at h
  · cases h
  next low high count hfollowing =>
  have hranges := following_eq_some hfollowing
  split at h
  · cases h
  next b2 rest2 =>
  split at h
  · cases h
  next hsecond =>
  split at h
  · obtain ⟨rfl, rfl⟩ := Start.char.inj h
    exact ⟨[b2], rest2, rfl, rfl, encodeChar_extend_two (by omega) (by omega)⟩
  split at h
  · cases h
  next b3 rest3 =>
  split at h
  · cases h
  next hthird =>
  rw [Bool.not_eq_true', Bool.not_eq_false, isTail_iff] at hthird
  split at h
  · obtain ⟨rfl, rfl⟩ := Start.char.inj h
    exact ⟨[b2, b3], rest3, rfl, rfl,
      encodeChar_extend_three (by omega) (by omega) hthird (by omega) (by omega)⟩
  split at h
  · cases h
  next b4 rest4 =>
  split at h
  · cases h
  next hfourth =>
  rw [Bool.not_eq_true', Bool.not_eq_false, isTail_iff] at hfourth
  obtain ⟨rfl, rfl⟩ := Start.char.inj h
  exact ⟨[b2, b3, b4], rest4, rfl, rfl,
    encodeChar_extend_four (by omega) (by omega) hthird hfourth (by omega) (by omega)⟩

/-- The bytes that are read strictly are those of the text. -/
theorem decode?_eq_some_iff {bytes : Bytes} {t : Text} :
    decode? bytes = some t ↔ bytes = encode t := by
  constructor
  · intro h
    induction bytes using decode?.induct generalizing t with
    | case1 =>
      rw [decode?] at h
      rw [← Option.some.inj h]
      rfl
    | case2 b rest c size hstart ih =>
      rw [decode?, hstart] at h
      obtain ⟨more, hmore, rfl⟩ := Option.map_eq_some_iff.1 h
      obtain ⟨tail, left, rfl, rfl, hbytes⟩ := start_eq_char hstart
      rw [Nat.add_sub_cancel, List.drop_left] at ih hmore
      rw [encode_cons, hbytes, ← ih hmore]
      rfl
    | case3 b rest size hstart =>
      rw [decode?, hstart] at h
      cases h
  · rintro rfl
    exact decode?_encode t

end Strict

/-! ### Tolerant reading -/

/-- What is read strictly is read in the same way tolerantly. -/
theorem decodeLossy_of_decode? {bytes : Bytes} {t : Text} (h : decode? bytes = some t) :
    decodeLossy bytes = t := by
  induction bytes using decodeLossy.induct generalizing t with
  | case1 =>
    rw [decode?] at h
    rw [decodeLossy]
    exact Option.some.inj h
  | case2 b rest c size hstart ih =>
    rw [decode?, hstart] at h
    obtain ⟨more, hmore, rfl⟩ := Option.map_eq_some_iff.1 h
    rw [decodeLossy, hstart]
    exact congrArg (c :: ·) (ih hmore)
  | case3 b rest size hstart =>
    rw [decode?, hstart] at h
    cases h

theorem decodeLossy_encode (t : Text) : decodeLossy (encode t) = t :=
  decodeLossy_of_decode? (decode?_encode t)

end RestConformance.Utf8
