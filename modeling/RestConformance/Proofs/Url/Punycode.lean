import RestConformance.Proofs.Text.Cutting
import RestConformance.Url.Punycode

/-!
# The characters of Punycode

What Punycode is written with, and that nothing else is read.

## Main results

* `Punycode.mem_encode` – written Punycode holds the ASCII characters of its label, hyphens and
  digits;
* `Punycode.ascii_of_decode?` – only ASCII characters are read.
-/

namespace RestConformance

/-- A cut at the last separator is put together again. -/
theorem Text.eq_append_of_splitLast {separator : Char} {t before after : Text}
    (h : splitLast separator t = some (before, after)) : t = before ++ separator :: after := by
  induction t generalizing before with
  | nil => cases h
  | cons c rest ih =>
    rw [splitLast] at h
    split at h
    · next front back hrest =>
      obtain ⟨rfl, rfl⟩ := Prod.mk.inj (Option.some.inj h)
      rw [ih hrest]
      rfl
    · obtain ⟨hc, heq⟩ := Option.ite_none_right_eq_some.1 h
      obtain ⟨rfl, rfl⟩ := Prod.mk.inj (Option.some.inj heq)
      rw [hc]
      rfl

namespace Punycode

variable {t label : Text} {c : Char}

/-- The character is a digit of the notation to the base of 36. -/
def IsDigit (c : Char) : Prop :=
  ∃ d < 36, c = digitChar d

/-! ### Writing -/

theorem mem_writeNumber {bias k n : Nat} (h : c ∈ writeNumber bias k n) : IsDigit c := by
  induction n using Nat.strongRecOn generalizing k with
  | _ n ih =>
    have hlow := one_le_threshold k bias
    have hhigh := threshold_le k bias
    rw [writeNumber] at h
    split at h
    · exact ⟨n, by omega, List.mem_singleton.1 h⟩
    · have hmod : (n - threshold k bias) % (36 - threshold k bias) < 36 - threshold k bias :=
        Nat.mod_lt _ (by omega)
      have hdiv : (n - threshold k bias) / (36 - threshold k bias) < n :=
        Nat.lt_of_le_of_lt (Nat.div_le_self _ _) (by omega)
      rcases List.mem_cons.1 h with rfl | hlater
      · exact ⟨_, by omega, rfl⟩
      · exact ih _ hdiv hlater

/-- A writer has written digits only. -/
def Writer.Digits (w : Writer) : Prop :=
  ∀ c ∈ w.written, IsDigit c

theorem Writer.Digits.pass {basic n : Nat} {w : Writer} (h : w.Digits) (c : Char) :
    (w.pass basic n c).Digits := by
  unfold Writer.pass
  split
  · exact h
  split
  · intro d hd
    rcases List.mem_append.1 hd with hold | hnew
    · exact h d hold
    · exact mem_writeNumber hnew
  · exact h

theorem Writer.Digits.passAll {basic n : Nat} {w : Writer} (h : w.Digits) (label : Text) :
    (label.foldl (Writer.pass basic n) w).Digits := by
  induction label generalizing w with
  | nil => exact h
  | cons c rest ih => exact ih (h.pass c)

theorem Writer.Digits.place {basic n : Nat} {w : Writer} (h : w.Digits) (label : Text)
    (points : List Nat) : (Punycode.place label basic points n w).Digits := by
  induction points generalizing n w with
  | nil => exact h
  | cons m rest ih =>
    rw [Punycode.place]
    refine ih ?_
    exact Writer.Digits.passAll (w := { w with delta := w.delta + (m - n) * (w.placed + 1) }) h
      label

/-- Written Punycode holds the ASCII characters of its label, hyphens and digits. -/
theorem mem_encode (h : c ∈ encode label) :
    (c ∈ label ∧ c.toNat < 0x80) ∨ c = '-' ∨ IsDigit c := by
  unfold encode at h
  dsimp only at h
  rw [List.mem_append, List.mem_append] at h
  rcases h with (hbasic | hhyphen) | hdigits
  · obtain ⟨hlabel, hascii⟩ := List.mem_filter.1 hbasic
    exact .inl ⟨hlabel, of_decide_eq_true hascii⟩
  · split at hhyphen
    · exact absurd hhyphen List.not_mem_nil
    · exact .inr (.inl (List.mem_singleton.1 hhyphen))
  · have hnone : (⟨[], 0, 72, (label.filter fun c => c.toNat < 0x80).length⟩ : Writer).Digits :=
      fun _ hc => absurd hc List.not_mem_nil
    exact .inr (.inr (hnone.place label _ c hdigits))

/-! ### Reading -/

theorem toNat_lt_of_digitValue? (h : (digitValue? c).isSome = true) : c.toNat < 0x80 := by
  unfold digitValue? at h
  dsimp only at h
  split at h
  · omega
  split at h
  · omega
  split at h
  · omega
  · exact absurd h Bool.false_ne_true

/-- What is read as a number are digits, and what comes behind them is left. -/
theorem readNumber_digits {bias k weight n m : Nat} {after : Text}
    (h : readNumber bias t k weight n = some (m, after)) :
    ∀ c ∈ t, (digitValue? c).isSome = true ∨ c ∈ after := by
  induction t generalizing k weight n with
  | nil => exact fun _ hc => absurd hc List.not_mem_nil
  | cons d rest ih =>
    rw [readNumber] at h
    split at h
    · cases h
    · next value hvalue =>
      have hsome : (digitValue? d).isSome = true := by
        rw [hvalue]
        rfl
      intro c hc
      dsimp only at h
      split at h
      · obtain ⟨-, rfl⟩ := Prod.mk.inj (Option.some.inj h)
        rcases List.mem_cons.1 hc with rfl | hlater
        · exact .inl hsome
        · exact .inr hlater
      · rcases List.mem_cons.1 hc with rfl | hlater
        · exact .inl hsome
        · exact ih h c hlater

theorem readPlaces_digits {bias n i : Nat} {placed found : Text}
    (h : readPlaces bias n i placed t = some found) :
    ∀ c ∈ t, (digitValue? c).isSome = true := by
  -- A number that is read leaves a shorter text.
  induction hlength : t.length using Nat.strongRecOn generalizing t bias n i placed with
  | _ length ih =>
    cases t with
    | nil => exact fun _ hc => absurd hc List.not_mem_nil
    | cons d rest =>
      rw [readPlaces] at h
      split at h
      · cases h
      · next j after hnumber =>
        dsimp only at h
        split at h
        · have hshorter := length_lt_of_readNumber _ _ _ _ _ _ hnumber
          rw [hlength] at hshorter
          intro c hc
          rcases readNumber_digits hnumber c hc with hdigit | hafter
          · exact hdigit
          · exact ih _ hshorter h rfl c hafter
        · cases h

/-- Only ASCII characters are read. -/
theorem ascii_of_decode? (h : decode? t = some label) : ∀ c ∈ t, c.toNat < 0x80 := by
  unfold decode? at h
  split at h
  next basic rest hsplit =>
  obtain ⟨hbasic, hplaces⟩ := Option.ite_none_right_eq_some.1 h
  have hrest : ∀ c ∈ rest, c.toNat < 0x80 :=
    fun c hc => toNat_lt_of_digitValue? (readPlaces_digits hplaces c hc)
  split at hsplit
  · next first before after hlast =>
    obtain ⟨rfl, rfl⟩ := Prod.mk.inj hsplit
    rw [Text.eq_append_of_splitLast hlast]
    intro c hc
    rcases List.mem_append.1 hc with hfront | hback
    · exact of_decide_eq_true (List.all_eq_true.1 hbasic c hfront)
    · rcases List.mem_cons.1 hback with rfl | hback
      · decide
      · exact hrest c hback
  · obtain ⟨-, rfl⟩ := Prod.mk.inj hsplit
    exact hrest

end Punycode

end RestConformance
