import RestConformance.Proofs.Url.Percent

/-!
# Escapes

An escape is a percent sign with two hexadecimal digits behind it. A text stands for its own bytes
exactly if it has none: every escape makes the bytes fewer. Encoding more characters of a text does
not change what it stands for.

## Main definitions

* `Percent.hasEscape t` – whether there is an escape in a text;
* `Percent.Decodes t bytes` – the bytes that a text stands for, read from left to right.

## Main results

* `Percent.decodes` – `Percent.decode` reads a text from left to right;
* `Percent.decode_encode` – an encoded text stands for what the text itself stands for;
* `Percent.length_decode_le` – a text stands for no more bytes than it has;
* `Percent.decode_eq_encode_iff` – which texts stand for their own bytes.
-/

namespace RestConformance.Percent

variable {set : Char → Bool} {t rest : Text} {bytes : Bytes} {c high low : Char} {m n : Nat}

/-- Whether a text starts with two hexadecimal digits. -/
def startsWithDigits : Text → Bool
  | high :: low :: _ => (Hexadecimal.value? high).isSome && (Hexadecimal.value? low).isSome
  | _ => false

/-- Whether there is an escape in a text. -/
def hasEscape : Text → Bool
  | [] => false
  | c :: rest => (c == '%' && startsWithDigits rest) || hasEscape rest

/-- The bytes that a text stands for, read from left to right. -/
inductive Decodes : Text → Bytes → Prop where
  | nil : Decodes [] []
  /-- An escape stands for one byte. -/
  | escape {high low : Char} {m n : Nat} {rest : Text} {bytes : Bytes} :
      Hexadecimal.value? high = some m → Hexadecimal.value? low = some n → Decodes rest bytes →
      Decodes ('%' :: high :: low :: rest) (.ofNat (m * 16 + n) :: bytes)
  /-- A character that starts no escape stands for its own bytes. -/
  | char {c : Char} {rest : Text} {bytes : Bytes} :
      (c = '%' → startsWithDigits rest = false) → Decodes rest bytes →
      Decodes (c :: rest) (String.utf8EncodeChar c ++ bytes)

/-! ### Digits and their bytes -/

theorem toNat_le_of_value? (h : Hexadecimal.value? c = some n) : c.toNat ≤ 0x7F := by
  simp only [Hexadecimal.value?, Char.le_def, UInt32.le_iff_toNat_le] at h
  have hself : c.toNat = c.val.toNat := rfl
  have hnine : '9'.val.toNat = 0x39 := rfl
  have hlower : 'f'.val.toNat = 0x66 := rfl
  have hupper : 'F'.val.toNat = 0x46 := rfl
  split at h
  · omega
  split at h
  · omega
  split at h
  · omega
  · cases h

theorem encodeChar_digit (h : Hexadecimal.value? c = some n) :
    ∃ b, String.utf8EncodeChar c = [b] ∧ Hexadecimal.value? (Char.ofNat b.toNat) = some n := by
  have hascii := toNat_le_of_value? h
  refine ⟨_, Utf8.encodeChar_one hascii, ?_⟩
  rwa [Utf8.toNat_ofNat (by omega), Char.ofNat_toNat]

/-- Only a digit has a byte that is read as one. -/
theorem value?_of_encodeChar {b : UInt8} {more : Bytes}
    (hbytes : String.utf8EncodeChar c = b :: more)
    (h : Hexadecimal.value? (Char.ofNat b.toNat) = some n) :
    more = [] ∧ Hexadecimal.value? c = some n := by
  by_cases hone : c.toNat ≤ 0x7F
  · rw [Utf8.encodeChar_one hone] at hbytes
    obtain ⟨rfl, rfl⟩ := List.cons.inj hbytes
    rw [Utf8.toNat_ofNat (by omega), Char.ofNat_toNat] at h
    exact ⟨rfl, h⟩
  · have table : ∀ k ∈ List.range 256, 0x80 ≤ k → Hexadecimal.value? (Char.ofNat k) = none := by
      decide +kernel
    have hhigh := Utf8.le_of_mem_encodeChar hone (hbytes ▸ List.mem_cons_self)
    rw [table _ (List.mem_range.2 b.toNat_lt) hhigh] at h
    cases h

theorem startsWithDigits_of_encode {first second b : UInt8} {more : Bytes}
    (hbytes : Utf8.encode t = first :: second :: more) (h : byte? first second = some b) :
    startsWithDigits t = true := by
  unfold byte? at h
  split at h
  · next m n hhigh hlow =>
    cases t with
    | nil => cases hbytes
    | cons high rest =>
      obtain ⟨x, others, hx, -⟩ := Utf8.start_encodeChar high
      rw [Utf8.encode_cons, hx, List.cons_append] at hbytes
      obtain ⟨rfl, htail⟩ := List.cons.inj hbytes
      obtain ⟨rfl, hvalue⟩ := value?_of_encodeChar hx hhigh
      cases rest with
      | nil => cases htail
      | cons low rest =>
        obtain ⟨y, others, hy, -⟩ := Utf8.start_encodeChar low
        rw [List.nil_append, Utf8.encode_cons, hy, List.cons_append] at htail
        obtain ⟨rfl, -⟩ := List.cons.inj htail
        rw [startsWithDigits, hvalue, (value?_of_encodeChar hy hlow).2]
        rfl
  · cases h

/-! ### One step of reading -/

theorem decodeBytes_append {front : Bytes} (h : 0x25 ∉ front) (bytes : Bytes) :
    decodeBytes (front ++ bytes) = front ++ decodeBytes bytes := by
  induction front with
  | nil => rfl
  | cons b front ih =>
    obtain ⟨hb, hfront⟩ := List.ne_and_not_mem_of_not_mem_cons h
    rw [List.cons_append, decodeBytes, ih hfront]
    · rfl
    · rintro high low more rfl -
      exact absurd rfl hb

theorem decode_escape (hhigh : Hexadecimal.value? high = some m)
    (hlow : Hexadecimal.value? low = some n) (rest : Text) :
    decode ('%' :: high :: low :: rest) = .ofNat (m * 16 + n) :: decode rest := by
  obtain ⟨x, hx, hxvalue⟩ := encodeChar_digit hhigh
  obtain ⟨y, hy, hyvalue⟩ := encodeChar_digit hlow
  have hbytes : Utf8.encode ('%' :: high :: low :: rest) = 0x25 :: x :: y :: Utf8.encode rest := by
    rw [Utf8.encode, List.flatMap_cons, List.flatMap_cons, List.flatMap_cons, hx, hy]
    rfl
  have hbyte : byte? x y = some (.ofNat (m * 16 + n)) := by
    rw [byte?, hxvalue, hyvalue]
  rw [decode, hbytes, decodeBytes, hbyte]
  rfl

theorem decode_char (h : c = '%' → startsWithDigits rest = false) :
    decode (c :: rest) = String.utf8EncodeChar c ++ decode rest := by
  have hbytes : Utf8.encode (c :: rest) = String.utf8EncodeChar c ++ Utf8.encode rest := rfl
  by_cases hc : c = '%'
  · subst hc
    -- The bytes behind the sign could only be read as digits if there were digits.
    have hsign : String.utf8EncodeChar '%' = [0x25] := by decide +kernel
    rw [decode, hbytes, hsign, decode]
    show decodeBytes (0x25 :: Utf8.encode rest) = 0x25 :: decodeBytes (Utf8.encode rest)
    cases hrest : Utf8.encode rest with
    | nil => rfl
    | cons x more =>
      cases more with
      | nil => rfl
      | cons y more =>
        have hnone : byte? x y = none := by
          refine Option.eq_none_iff_forall_ne_some.2 fun b hb => ?_
          rw [startsWithDigits_of_encode hrest hb] at h
          exact Bool.false_ne_true (h rfl).symm
        rw [decodeBytes, hnone]
  · rw [decode, hbytes, decodeBytes_append (notMem_encodeChar hc)]
    rfl

theorem Decodes.decode_eq (h : Decodes t bytes) : decode t = bytes := by
  induction h with
  | nil => rfl
  | escape hhigh hlow _ ih => rw [decode_escape hhigh hlow, ih]
  | char hc _ ih => rw [decode_char hc, ih]

/-- Every text is read from left to right, and what is read is what it stands for. -/
theorem decodes (t : Text) : Decodes t (decode t) := by
  have hread : ∃ bytes, Decodes t bytes := by
    induction hlength : t.length using Nat.strongRecOn generalizing t with
    | ind length ih =>
      subst hlength
      cases t with
      | nil => exact ⟨[], .nil⟩
      | cons c rest =>
        by_cases hescape : c = '%' ∧ startsWithDigits rest = true
        · obtain ⟨rfl, hdigits⟩ := hescape
          unfold startsWithDigits at hdigits
          split at hdigits
          · next high low rest =>
            rw [Bool.and_eq_true, Option.isSome_iff_exists, Option.isSome_iff_exists] at hdigits
            obtain ⟨⟨m, hhigh⟩, n, hlow⟩ := hdigits
            obtain ⟨bytes, hrest⟩ := ih rest.length (by simp; omega) rest rfl
            exact ⟨_, .escape hhigh hlow hrest⟩
          · cases hdigits
        · obtain ⟨bytes, hrest⟩ := ih rest.length (Nat.lt_succ_self _) rest rfl
          exact ⟨_, .char (fun hc => Bool.eq_false_iff.2 fun h => hescape ⟨hc, h⟩) hrest⟩
  obtain ⟨bytes, h⟩ := hread
  rwa [h.decode_eq]

/-! ### Encoding more of a text -/

/-- Encoded bytes stand for themselves, whatever follows. -/
theorem Decodes.encodeBytes (h : Decodes t bytes) (front : Bytes) :
    Decodes (front.flatMap encodeByte ++ t) (front ++ bytes) := by
  induction front with
  | nil => exact h
  | cons b front ih =>
    have hb := b.toNat_lt
    have hbyte : UInt8.ofNat (b.toNat / 16 * 16 + b.toNat % 16) = b := by
      rw [Nat.div_add_mod']
      exact UInt8.ofNat_toNat
    have hstep := Decodes.escape (Hexadecimal.value?_upperDigit (n := b.toNat / 16) (by omega))
      (Hexadecimal.value?_upperDigit (Nat.mod_lt b.toNat (by decide))) ih
    rwa [hbyte] at hstep

/-- A set that neither the percent sign nor a hexadecimal digit belongs to. -/
structure SparesEscapes (set : Char → Bool) : Prop where
  sign : set '%' = false
  digit : ∀ c, (Hexadecimal.value? c).isSome → set c = false

theorem sparesEscapes_path : SparesEscapes path where
  sign := by decide
  digit c hc := by
    have table : ∀ k ∈ List.range 128, (Hexadecimal.value? (Char.ofNat k)).isSome →
        path (Char.ofNat k) = false := by decide +kernel
    obtain ⟨n, hn⟩ := Option.isSome_iff_exists.1 hc
    have hascii := toNat_le_of_value? hn
    have hpath := table c.toNat (List.mem_range.2 (by omega))
    rw [Char.ofNat_toNat] at hpath
    exact hpath hc

theorem exists_encodeChar (c : Char) : ∃ more, encodeChar c = '%' :: more := by
  obtain ⟨b, bytes, hbytes, -⟩ := Utf8.start_encodeChar c
  rw [encodeChar, hbytes, List.flatMap_cons]
  exact ⟨_, rfl⟩

theorem startsWithDigits_encode (h : startsWithDigits t = false) :
    startsWithDigits (encode set t) = false := by
  -- What encoding puts in starts with a percent sign, which is no digit.
  have hsign : ∀ more, startsWithDigits ('%' :: more) = false := by
    intro more
    cases more <;> rfl
  have hsecond : ∀ c more, startsWithDigits (c :: '%' :: more) = false :=
    fun _ _ => Bool.and_false _
  cases t with
  | nil => rfl
  | cons c rest =>
    obtain ⟨more, hmore⟩ := exists_encodeChar c
    rw [encode_cons]
    split
    · rw [hmore]
      exact hsign _
    · cases rest with
      | nil => rfl
      | cons d rest =>
        obtain ⟨others, hothers⟩ := exists_encodeChar d
        rw [encode_cons]
        split
        · rw [hothers]
          exact hsecond c _
        · exact h

theorem Decodes.encode (hset : SparesEscapes set) (h : Decodes t bytes) :
    Decodes (Percent.encode set t) bytes := by
  induction h with
  | nil => exact .nil
  | @escape high low m n rest bytes hhigh hlow _ ih =>
    have hfirst := hset.digit high (Option.isSome_of_eq_some hhigh)
    have hsecond := hset.digit low (Option.isSome_of_eq_some hlow)
    rw [encode_cons, encode_cons, encode_cons, hset.sign, hfirst, hsecond]
    exact .escape hhigh hlow ih
  | @char c rest bytes hc _ ih =>
    rw [encode_cons]
    split
    · exact ih.encodeBytes _
    · exact .char (fun hsign => startsWithDigits_encode (hc hsign)) ih

/-- An encoded text stands for what the text itself stands for. -/
theorem decode_encode (hset : SparesEscapes set) (t : Text) :
    decode (encode set t) = decode t :=
  ((decodes t).encode hset).decode_eq

/-! ### Counting bytes -/

theorem length_encode_cons (c : Char) (rest : Text) :
    (Utf8.encode (c :: rest)).length = c.utf8Size + (Utf8.encode rest).length := by
  rw [Utf8.encode, List.flatMap_cons, List.length_append, String.length_utf8EncodeChar]
  rfl

/-- An escape makes the bytes fewer, and nothing makes them more. -/
theorem Decodes.length_le (h : Decodes t bytes) :
    bytes.length ≤ (Utf8.encode t).length ∧
      (hasEscape t = true → bytes.length < (Utf8.encode t).length) := by
  induction h with
  | nil => exact ⟨Nat.le_refl _, nofun⟩
  | @escape high low _ _ rest bytes _ _ _ ih =>
    have hsign := Char.utf8Size_pos '%'
    have hhigh := Char.utf8Size_pos high
    have hlow := Char.utf8Size_pos low
    have hshorter : bytes.length + 1 < (Utf8.encode ('%' :: high :: low :: rest)).length := by
      rw [length_encode_cons, length_encode_cons, length_encode_cons]
      omega
    exact ⟨Nat.le_of_lt hshorter, fun _ => hshorter⟩
  | @char c rest bytes hc _ ih =>
    rw [length_encode_cons, List.length_append, String.length_utf8EncodeChar]
    refine ⟨Nat.add_le_add_left ih.1 _, fun hescape => Nat.add_lt_add_left (ih.2 ?_) _⟩
    -- The escape is not at the start.
    rw [hasEscape, Bool.or_eq_true, Bool.and_eq_true, beq_iff_eq] at hescape
    rcases hescape with ⟨hsign, hdigits⟩ | hlater
    · rw [hc hsign] at hdigits
      cases hdigits
    · exact hlater

theorem Decodes.eq_encode (h : Decodes t bytes) (hnone : hasEscape t = false) :
    bytes = Utf8.encode t := by
  induction h with
  | nil => rfl
  | escape hhigh hlow _ _ =>
    rw [hasEscape, startsWithDigits, hhigh, hlow] at hnone
    cases hnone
  | char _ _ ih =>
    rw [hasEscape, Bool.or_eq_false_iff] at hnone
    rw [ih hnone.2]
    rfl

/-- A text stands for no more bytes than it has. -/
theorem length_decode_le (t : Text) : (decode t).length ≤ (Utf8.encode t).length :=
  (decodes t).length_le.1

/-- A text stands for its own bytes exactly if there is no escape in it. -/
theorem decode_eq_encode_iff : decode t = Utf8.encode t ↔ hasEscape t = false := by
  refine ⟨fun heq => Bool.eq_false_iff.2 fun hescape => ?_, (decodes t).eq_encode⟩
  have hshorter := (decodes t).length_le.2 hescape
  rw [heq] at hshorter
  exact Nat.lt_irrefl _ hshorter

end RestConformance.Percent
