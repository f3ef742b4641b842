import RestConformance.Proofs.Json.Strings
import RestConformance.Proofs.Text.Digits

/-!
# Reading back values without parts

Wherever a value is written in a text, reading it stops where it ends. Strings have a quote at their
end and literals a fixed length. A number could go on, but behind a number there is always a blank
or a character that separates or closes.

## Main definitions

* `Json.Closes rest` – a text that may stand behind a value;
* `Json.ReadsAs t value` – a text is read as a value wherever it stands.

## Main results

* `Json.readNumber_writeInteger` – a whole number is read back up to what closes it;
* `Json.readsAs_integer`, `Json.readsAs_string` – so are all values without parts.
-/

namespace RestConformance.Json

variable {value : Json} {t rest gap : Text} {fuel : Nat} {c : Char}

/-! ### Blanks and ends -/

theorem skipGap_append (hgap : gap.all isGap = true) (t : Text) : skipGap (gap ++ t) = skipGap t :=
  List.dropWhile_append_of_pos (List.all_eq_true.1 hgap)

theorem skipGap_cons (hc : isGap c = false) (t : Text) : skipGap (c :: t) = c :: t :=
  List.dropWhile_cons_of_neg (Bool.eq_false_iff.1 hc)

/-- The characters that may stand behind a value: what separates and closes, and blanks. -/
def closers : Text :=
  [',', ']', '\x7d', ' ', '\n', '\r', '\t']

theorem mem_closers_of_isGap (hc : isGap c = true) : c ∈ closers := by
  simp only [isGap, Bool.or_eq_true, beq_iff_eq] at hc
  rcases hc with ((rfl | rfl) | rfl) | rfl <;> decide

/-- A text that may stand behind a value. -/
def Closes (rest : Text) : Prop :=
  ∀ c, rest.head? = some c → c ∈ closers

theorem closes_nil : Closes [] := nofun

theorem closes_cons (hc : c ∈ closers) (rest : Text) : Closes (c :: rest) := by
  rintro _ ⟨⟩
  exact hc

theorem closes_append (hgap : gap.all isGap = true) (hc : c ∈ closers) (rest : Text) :
    Closes (gap ++ c :: rest) := by
  cases gap with
  | nil => exact closes_cons hc rest
  | cons blank more =>
    exact closes_cons (mem_closers_of_isGap (List.all_eq_true.1 hgap blank List.mem_cons_self)) _

/-! ### Numbers -/

theorem digits_append {ds : Text} (hds : ∀ c ∈ ds, c.isDigit = true) (hrest : Closes rest) :
    digits (ds ++ rest) = (ds, rest) := by
  rw [digits, List.takeWhile_append_of_pos hds, List.dropWhile_append_of_pos hds]
  cases rest with
  | nil => simp
  | cons c more =>
    have hc : c.isDigit = false := by
      have table : ∀ d ∈ closers, d.isDigit = false := by decide
      exact table c (hrest c rfl)
    simp [hc]

theorem readWhole_digits (n : Nat) (hrest : Closes rest) :
    readWhole (Decimal.digits n ++ rest) = some (Decimal.digits n, rest) := by
  unfold readWhole
  rw [digits_append (fun c hc => Decimal.isDigit_of_mem_digits hc) hrest]
  split
  · next hnone => exact absurd (Prod.mk.inj hnone).1 (Decimal.digits_ne_nil n)
  · next hzero =>
    obtain ⟨hdigits, rfl⟩ := Prod.mk.inj hzero
    rw [hdigits]
  · next more after hmore hzeros =>
    -- Only zero itself starts with a zero.
    have hdigits := (Prod.mk.inj hzeros).1
    exact (hmore (Decimal.digits_zero_cons hdigits)).elim
  · rfl

theorem readFraction_closes (hrest : Closes rest) : readFraction rest = some ([], rest) := by
  unfold readFraction
  split
  · next more => exact absurd (hrest '.' rfl) (by decide)
  · rfl

theorem readExponent_closes (hrest : Closes rest) : readExponent rest = some ([], rest) := by
  unfold readExponent
  split
  · next c more =>
    have hc : ¬(c = 'e' ∨ c = 'E') := by
      rintro (rfl | rfl) <;> exact absurd (hrest _ rfl) (by decide)
    rw [if_neg hc]
  · rfl

theorem exists_digits_eq_cons (n : Nat) :
    ∃ c t, Decimal.digits n = c :: t ∧ c.isDigit = true := by
  obtain ⟨c, t, hdigits⟩ := List.exists_cons_of_ne_nil (Decimal.digits_ne_nil n)
  have hc : c ∈ Decimal.digits n := by
    rw [hdigits]
    exact List.mem_cons_self
  exact ⟨c, t, hdigits, Decimal.isDigit_of_mem_digits hc⟩

theorem writeInteger_ofNat (n : Nat) : writeInteger (.ofNat n) = Decimal.digits n :=
  rfl

theorem writeInteger_negSucc (n : Nat) :
    writeInteger (.negSucc n) = '-' :: Decimal.digits (n + 1) := by
  show ("-" ++ (n + 1).repr).toList = _
  rw [String.toList_append]
  rfl

/-- A whole number is read back up to what closes it. -/
theorem readNumber_writeInteger (n : Int) (hrest : Closes rest) :
    readNumber (writeInteger n ++ rest) = some (.integer n, rest) := by
  cases n with
  | ofNat n =>
    -- No sign is read, because the text starts with a digit.
    have hunsigned : ∀ body, Decimal.digits n ++ rest ≠ '-' :: body := by
      intro body heq
      obtain ⟨c, more, hdigits, hc⟩ := exists_digits_eq_cons n
      rw [hdigits, List.cons_append] at heq
      rw [(List.cons.inj heq).1] at hc
      exact absurd hc (by decide)
    rw [writeInteger_ofNat]
    simp [readNumber, readWhole_digits n hrest, readFraction_closes hrest,
      readExponent_closes hrest, numberOf, Decimal.number?_digits]
  | negSucc n =>
    rw [writeInteger_negSucc]
    simp [readNumber, readWhole_digits (n + 1) hrest, readFraction_closes hrest,
      readExponent_closes hrest, numberOf, Decimal.number?_digits, Int.negSucc_eq]

/-! ### Values without parts -/

/-- The characters that a value starts with. -/
def opens (c : Char) : Bool :=
  c ∈ ['[', '\x7b', '"', 'n', 't', 'f', '-'] || c.isDigit

/-- The characters that a whole number starts with. -/
def OpensNumber (c : Char) : Prop :=
  c = '-' ∨ c.isDigit = true

instance (c : Char) : Decidable (OpensNumber c) :=
  inferInstanceAs (Decidable (c = '-' ∨ c.isDigit = true))

theorem OpensNumber.opens (hc : OpensNumber c) : opens c = true := by
  rcases hc with rfl | hdigit
  · decide
  · rw [Json.opens, hdigit, Bool.or_true]

theorem OpensNumber.ne {d : Char} (hc : OpensNumber c) (hd : ¬OpensNumber d) : c ≠ d := by
  rintro rfl
  exact hd hc

theorem isGap_of_opens (hc : opens c = true) : isGap c = false := by
  refine Bool.eq_false_iff.2 fun hgap => ?_
  simp only [isGap, Bool.or_eq_true, beq_iff_eq] at hgap
  rcases hgap with ((rfl | rfl) | rfl) | rfl <;> exact absurd hc (by decide)

theorem exists_writeInteger_eq_cons (n : Int) :
    ∃ c t, writeInteger n = c :: t ∧ OpensNumber c := by
  cases n with
  | ofNat n =>
    obtain ⟨c, t, hdigits, hc⟩ := exists_digits_eq_cons n
    exact ⟨c, t, hdigits, .inr hc⟩
  | negSucc n => exact ⟨'-', _, writeInteger_negSucc n, .inl rfl⟩

/-- A text is read as a value wherever it stands. -/
def ReadsAs (t : Text) (value : Json) : Prop :=
  ∀ fuel rest, t.length < fuel → Closes rest → readValue fuel (t ++ rest) = some (value, rest)

/-- Blanks in front of a value do not matter. -/
theorem readValue_append (hgap : gap.all isGap = true) (t : Text) :
    readValue fuel (gap ++ t) = readValue fuel t := by
  cases fuel with
  | zero => rfl
  | succ fuel => simp only [readValue, skipGap_append hgap]

/-- Only brackets and braces open values with parts. -/
theorem readValue_of_opens (hc : opens c = true) (harray : c ≠ '[') (hobject : c ≠ '\x7b')
    (t : Text) : readValue (fuel + 1) (c :: t) = readScalar (c :: t) := by
  rw [readValue, skipGap_cons (isGap_of_opens hc)]
  split
  · next heq => exact absurd (List.cons.inj heq).1 harray
  · next heq => exact absurd (List.cons.inj heq).1 hobject
  · rfl

/-- A value without parts is read back if it is where it starts. -/
theorem readsAs_of_scalar (hc : opens c = true) (harray : c ≠ '[') (hobject : c ≠ '\x7b')
    (hread : ∀ rest, Closes rest → readScalar (c :: t ++ rest) = some (value, rest)) :
    ReadsAs (c :: t) value := by
  intro fuel rest hfuel hrest
  obtain ⟨fuel, rfl⟩ := Nat.exists_eq_succ_of_ne_zero (Nat.ne_zero_of_lt hfuel)
  rw [List.cons_append, readValue_of_opens hc harray hobject]
  exact hread rest hrest

theorem readScalar_number (hc : OpensNumber c) (t : Text) :
    readScalar (c :: t) = readNumber (c :: t) := by
  unfold readScalar
  split
  · next heq => exact absurd (List.cons.inj heq).1 (hc.ne (by decide))
  · next heq => exact absurd (List.cons.inj heq).1 (hc.ne (by decide))
  · next heq => exact absurd (List.cons.inj heq).1 (hc.ne (by decide))
  · next heq => exact absurd (List.cons.inj heq).1 (hc.ne (by decide))
  · rfl

theorem readsAs_null : ReadsAs (writeScalar .null) .null :=
  readsAs_of_scalar rfl (by decide) (by decide) fun _ _ => rfl

theorem readsAs_bool (b : Bool) : ReadsAs (writeScalar (.bool b)) (.bool b) := by
  cases b with
  | true => exact readsAs_of_scalar rfl (by decide) (by decide) fun _ _ => rfl
  | false => exact readsAs_of_scalar rfl (by decide) (by decide) fun _ _ => rfl

theorem readsAs_integer (n : Int) : ReadsAs (writeScalar (.integer n)) (.integer n) := by
  obtain ⟨c, t, hwrite, hc⟩ := exists_writeInteger_eq_cons n
  rw [writeScalar, hwrite]
  apply readsAs_of_scalar hc.opens (hc.ne (by decide)) (hc.ne (by decide))
  intro rest hrest
  rw [List.cons_append, readScalar_number hc, ← List.cons_append, ← hwrite,
    readNumber_writeInteger n hrest]

theorem readScalar_string (t : Text) : readScalar ('"' :: t) =
    (readString t).map fun found => (.string (String.ofList found.1), found.2) :=
  rfl

theorem readsAs_string (s : String) : ReadsAs (writeScalar (.string s)) (.string s) := by
  show ReadsAs ('"' :: (s.toList.flatMap escape ++ ['"'])) _
  apply readsAs_of_scalar (by decide) (by decide) (by decide)
  intro rest _
  rw [List.cons_append, List.append_assoc, List.singleton_append, readScalar_string,
    readString_writeString, Option.map_some, String.ofList_toList]

end RestConformance.Json
