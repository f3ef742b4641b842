import RestConformance.Proofs.Text.Utf8
import RestConformance.Url.Percent

/-!
# Percent encoding, twice and back

What is percent-encoded once is its own encoded form, and a text without percent signs stands for
itself.

## Main results

* `Percent.not_mem_set_of_mem_encode` – no character of the set is left in an encoded text;
* `Percent.encode_encode` – encoding a second time changes nothing;
* `Percent.decode_of_notMem` – a text without percent signs stands for its own bytes.
-/

namespace RestConformance.Percent

variable {set : Char → Bool} {t : Text} {c : Char}

/-- The characters that encoded bytes are written with. -/
def signs : Text :=
  ['%', '0', '1', '2', '3', '4', '5', '6', '7', '8', '9', 'A', 'B', 'C', 'D', 'E', 'F']

/-- The set leaves the characters alone that encoded bytes are written with. -/
def Spares (set : Char → Bool) : Prop :=
  ∀ c ∈ signs, set c = false

instance : Decidable (Spares set) :=
  inferInstanceAs (Decidable (∀ c ∈ signs, set c = false))

/-! ### Encoded texts -/

theorem upperDigit_mem {n : Nat} (h : n < 16) : Hexadecimal.upperDigit n ∈ signs := by
  have table : ∀ k ∈ List.range 16, Hexadecimal.upperDigit k ∈ signs := by decide
  exact table n (List.mem_range.mpr h)

theorem mem_encodeByte {b : UInt8} (h : c ∈ encodeByte b) : c ∈ signs := by
  have hb := b.toNat_lt
  rcases List.mem_cons.1 h with rfl | h
  · decide
  rcases List.mem_cons.1 h with rfl | h
  · exact upperDigit_mem (by omega)
  · rw [List.mem_singleton.1 h]
    exact upperDigit_mem (Nat.mod_lt _ (by decide))

theorem mem_encodeChar {d : Char} (h : c ∈ encodeChar d) : c ∈ signs := by
  obtain ⟨b, -, hc⟩ := List.mem_flatMap.1 h
  exact mem_encodeByte hc

/-- A character of an encoded text is one of the text that is not in the set, or one that encoded
bytes are written with. -/
theorem mem_encode (h : c ∈ encode set t) : c ∈ t ∧ set c = false ∨ c ∈ signs := by
  obtain ⟨d, hd, hc⟩ := List.mem_flatMap.1 h
  by_cases hset : set d = true
  · rw [if_pos hset] at hc
    exact .inr (mem_encodeChar hc)
  · rw [if_neg hset, List.mem_singleton] at hc
    subst hc
    exact .inl ⟨hd, Bool.eq_false_iff.2 hset⟩

/-- No character of the set is left in an encoded text. -/
theorem not_mem_set_of_mem_encode (hset : Spares set) (h : c ∈ encode set t) : set c = false := by
  rcases mem_encode h with ⟨-, hc⟩ | hc
  · exact hc
  · exact hset c hc

/-- Encoding a second time changes nothing. -/
theorem encode_encode (hset : Spares set) (t : Text) : encode set (encode set t) = encode set t :=
  encode_eq_self fun _ hc => not_mem_set_of_mem_encode hset hc

theorem encode_cons (set : Char → Bool) (c : Char) (rest : Text) :
    encode set (c :: rest) = (if set c then encodeChar c else [c]) ++ encode set rest :=
  rfl

theorem encode_ne_nil (h : t ≠ []) : encode set t ≠ [] := by
  obtain ⟨c, rest, rfl⟩ := List.exists_cons_of_ne_nil h
  have hfirst : (if set c then encodeChar c else [c]) ≠ [] := by
    split
    · obtain ⟨b, bytes, hbytes, -⟩ := Utf8.start_encodeChar c
      rw [encodeChar, hbytes]
      exact List.cons_ne_nil _ _
    · exact List.cons_ne_nil _ _
  exact List.append_ne_nil_of_left_ne_nil hfirst _

theorem spares_userinfo : Spares userinfo := by decide

theorem spares_path : Spares path := by decide

theorem spares_specialQuery : Spares specialQuery := by decide

theorem spares_fragment : Spares fragment := by decide

/-! ### The sets -/

theorem path_of_userinfo (h : userinfo c = false) : path c = false := by
  simp only [userinfo, Bool.or_eq_false_iff] at h
  simp only [h]

theorem fragment_of_path (h : path c = false) : fragment c = false := by
  simp only [path, Bool.or_eq_false_iff] at h
  simp only [h]

/-- All sets hold the control characters and the space. -/
theorem visible_of_control (hcontrol : control c = false) (hspace : c ≠ ' ') : 0x20 < c.toNat := by
  rw [control, Bool.or_eq_false_iff] at hcontrol
  have hlow := of_decide_eq_false hcontrol.1
  have hne : c.toNat ≠ 0x20 := fun heq => hspace (Char.toNat_inj.1 heq)
  omega

theorem visible_of_fragment (h : fragment c = false) : 0x20 < c.toNat := by
  simp only [fragment, Bool.or_eq_false_iff, beq_eq_false_iff_ne] at h
  exact visible_of_control h.1.1.1.1.1 h.1.1.1.1.2

theorem visible_of_specialQuery (h : specialQuery c = false) : 0x20 < c.toNat := by
  simp only [specialQuery, query, Bool.or_eq_false_iff, beq_eq_false_iff_ne] at h
  exact visible_of_control h.1.1.1.1.1.1 h.1.1.1.1.1.2

/-! ### Texts without percent signs -/

theorem decodeBytes_of_notMem {bytes : Bytes} (h : 0x25 ∉ bytes) : decodeBytes bytes = bytes := by
  induction bytes with
  | nil => rfl
  | cons b rest ih =>
    obtain ⟨hb, hrest⟩ := List.ne_and_not_mem_of_not_mem_cons h
    rw [decodeBytes, ih hrest]
    rintro high low more rfl -
    exact absurd rfl hb

theorem notMem_encodeChar (h : c ≠ '%') : 0x25 ∉ String.utf8EncodeChar c := by
  intro hmem
  by_cases hone : c.toNat ≤ 0x7F
  · rw [Utf8.encodeChar_one hone, List.mem_singleton] at hmem
    have hnat := congrArg UInt8.toNat hmem
    rw [Utf8.toNat_ofNat (by omega)] at hnat
    exact h (Char.toNat_inj.1 hnat.symm)
  · exact absurd (Utf8.le_of_mem_encodeChar hone hmem) (by decide)

/-- A text without percent signs stands for its own bytes. -/
theorem decode_of_notMem (h : '%' ∉ t) : decode t = Utf8.encode t := by
  refine decodeBytes_of_notMem fun hmem => ?_
  obtain ⟨c, hc, hb⟩ := List.mem_flatMap.1 hmem
  exact notMem_encodeChar (fun heq => h (heq ▸ hc)) hb

/-- A text without percent signs reads back from what it stands for. -/
theorem decode?_decode_of_notMem (h : '%' ∉ t) : Utf8.decode? (decode t) = some t := by
  rw [decode_of_notMem h, Utf8.decode?_encode]

end RestConformance.Percent
