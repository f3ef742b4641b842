import RestConformance.Json.Printer
import RestConformance.Json.Reader

/-!
# Strings in JSON

How the characters of a string are written, and that they are read back. A character that is
escaped is written behind a backslash, so no quote within a string is taken for its end.

## Main definitions

* `Json.IsUnescaped t` – a text that is written as it stands.

## Main results

* `Json.readString_escape` – one character of a string is read back, whatever follows;
* `Json.readString_writeString` – a string is read back up to its closing quote.
-/

namespace RestConformance.Json

variable {c : Char} {t rest : Text}

/-! ### What is escaped -/

/-- Whether a character is not written as it stands. -/
def isEscaped (c : Char) : Bool :=
  c == '"' || c == '\\' || c.toNat < 0x20

theorem escape_eq_self (h : isEscaped c = false) : escape c = [c] := by
  simp only [isEscaped, Bool.or_eq_false_iff, beq_eq_false_iff_ne, decide_eq_false_iff_not] at h
  obtain ⟨⟨hquote, hbackslash⟩, hlow⟩ := h
  have hcontrol : ∀ d : Char, d.toNat < 0x20 → c ≠ d := by
    rintro d hd rfl
    exact hlow hd
  simp [escape, hquote, hbackslash, hlow, hcontrol]

theorem exists_escape (h : isEscaped c = true) : ∃ code, escape c = '\\' :: code := by
  by_cases hlow : c.toNat < 0x20
  · have table : ∀ k < 0x20, (escape (Char.ofNat k)).head? = some '\\' := by decide
    have hhead := table c.toNat hlow
    rw [Char.ofNat_toNat] at hhead
    exact List.head?_eq_some_iff.1 hhead
  · simp only [isEscaped, hlow, decide_false, Bool.or_false, Bool.or_eq_true, beq_iff_eq] at h
    rcases h with rfl | rfl <;> exact ⟨_, rfl⟩

theorem quote_notMem_escape (hc : c ≠ '"') : '"' ∉ escape c := by
  by_cases hlow : c.toNat < 0x20
  · have table : ∀ k < 0x20, '"' ∉ escape (Char.ofNat k) := by decide
    simpa using table c.toNat hlow
  · by_cases hbackslash : c = '\\'
    · subst hbackslash
      decide
    · rw [escape_eq_self (by simp [isEscaped, hc, hbackslash, hlow])]
      simpa using Ne.symm hc

/-- A text that is written as it stands. -/
def IsUnescaped (t : Text) : Prop :=
  ∀ c ∈ t, isEscaped c = false

instance : Decidable (IsUnescaped t) :=
  inferInstanceAs (Decidable (∀ c ∈ t, isEscaped c = false))

theorem IsUnescaped.flatMap_escape (h : IsUnescaped t) : t.flatMap escape = t := by
  induction t with
  | nil => rfl
  | cons c rest ih =>
    have hc := escape_eq_self (h c List.mem_cons_self)
    rw [List.flatMap_cons, hc, ih fun d hd => h d (List.mem_cons_of_mem _ hd)]
    rfl

theorem IsUnescaped.quote_notMem (h : IsUnescaped t) : '"' ∉ t :=
  fun hquote => by simpa [isEscaped] using h _ hquote

/-! ### Reading back -/

/-- A control character without an escape of its own is written as its code point. -/
theorem readString_codePoint (hc : c.toNat < 0x20) (rest : Text) :
    readString ('\\' :: 'u' :: '0' :: '0' :: Hexadecimal.lowerDigit (c.toNat / 16) ::
      Hexadecimal.lowerDigit (c.toNat % 16) :: rest) = prepend c (readString rest) := by
  have hzero : Hexadecimal.value? '0' = some 0 := by decide
  have hdigits : fourDigits? '0' '0' (Hexadecimal.lowerDigit (c.toNat / 16))
      (Hexadecimal.lowerDigit (c.toNat % 16)) = some c.toNat := by
    rw [fourDigits?, hzero, Hexadecimal.value?_lowerDigit (by omega),
      Hexadecimal.value?_lowerDigit (Nat.mod_lt _ (by decide))]
    exact congrArg some (by omega)
  have hunit : unit? c.toNat = some c := by
    rw [unit?, if_neg (by omega), Char.ofNat_toNat]
  rw [readString, hdigits]
  dsimp only
  rw [hunit]

/-- One character of a string is read back, whatever follows. -/
theorem readString_escape (c : Char) (rest : Text) :
    readString (escape c ++ rest) = prepend c (readString rest) := by
  by_cases hletter : c ∈ ['"', '\\', '\n', '\r', '\t', '\x08', '\x0c']
  · simp only [List.mem_cons, List.not_mem_nil, or_false] at hletter
    rcases hletter with rfl | rfl | rfl | rfl | rfl | rfl | rfl <;>
      simp [escape, readString, letter?]
  · simp only [List.mem_cons, List.not_mem_nil, or_false, not_or] at hletter
    obtain ⟨hquote, hbackslash, hline, hreturn, htab, hback, hfeed⟩ := hletter
    by_cases hlow : c.toNat < 0x20
    · have hescape : escape c = ['\\', 'u', '0', '0', Hexadecimal.lowerDigit (c.toNat / 16),
          Hexadecimal.lowerDigit (c.toNat % 16)] := by
        simp [escape, hquote, hbackslash, hline, hreturn, htab, hback, hfeed, hlow]
      rw [hescape]
      exact readString_codePoint hlow rest
    · rw [escape_eq_self (by simp [isEscaped, hquote, hbackslash, hlow]), List.singleton_append,
        readString, if_neg (by simp [hlow, hbackslash])]
      · exact hquote
      · rintro - - - - - rfl
        exact absurd rfl hbackslash
      · rintro - - rfl
        exact absurd rfl hbackslash

/-- A string is read back up to its closing quote. -/
theorem readString_writeString (t rest : Text) :
    readString (t.flatMap escape ++ '"' :: rest) = some (t, rest) := by
  induction t with
  | nil => rw [List.flatMap_nil, List.nil_append, readString]
  | cons c t ih =>
    rw [List.flatMap_cons, List.append_assoc, readString_escape, ih]
    rfl

end RestConformance.Json
