import RestConformance.Text.Numerals

/-!
# Numbers and their digits

The digits of a number, in decimal and in hexadecimal, read back as the number.

## Main results

* `Decimal.number?_digits` – decimal digits read back;
* `Decimal.isDigit_of_mem_digits` – what they are made of;
* `Hexadecimal.number?_lowerDigits` – hexadecimal digits read back;
* `Hexadecimal.length_lowerDigits` – four of them are enough for sixteen bits.
-/

namespace RestConformance

/-! ### Decimal digits -/

namespace Decimal

theorem digits_eq_toDigits (n : Nat) : digits n = Nat.toDigits 10 n := by
  rw [digits, Nat.toString_eq_repr, Nat.repr, String.toList_ofList]

/-- The digits of a number are those of its tenth part and one more. -/
theorem digits_eq_append {n : Nat} (h : 10 ≤ n) :
    digits n = digits (n / 10) ++ [Nat.digitChar (n % 10)] := by
  rw [digits_eq_toDigits, digits_eq_toDigits, Nat.toDigits_of_base_le (by decide) h]

theorem digits_of_lt {n : Nat} (h : n < 10) : digits n = [Nat.digitChar n] := by
  rw [digits_eq_toDigits, Nat.toDigits_of_lt_base h]

theorem value?_digitChar {d : Nat} (h : d < 10) : value? (Nat.digitChar d) = some d := by
  have table : ∀ k ∈ List.range 10, value? (Nat.digitChar k) = some k := by decide
  exact table d (List.mem_range.mpr h)

theorem isDigit_of_mem_digits {n : Nat} {c : Char} (h : c ∈ digits n) : c.isDigit = true := by
  rw [digits_eq_toDigits] at h
  exact Nat.isDigit_of_mem_toDigits (by decide) (by decide) h

theorem digits_ne_nil (n : Nat) : digits n ≠ [] := by
  rw [digits_eq_toDigits]
  exact List.ne_nil_of_length_pos Nat.length_toDigits_pos

theorem extend?_append (n : Nat) (s t : Text) :
    extend? n (s ++ t) = (extend? n s).bind fun m => extend? m t := by
  induction s generalizing n with
  | nil => rfl
  | cons c rest ih =>
    rw [List.cons_append, extend?, extend?]
    cases value? c with
    | none => rfl
    | some d => exact ih _

theorem extend?_digits (n : Nat) : extend? 0 (digits n) = some n := by
  induction n using Nat.strongRecOn with
  | _ n ih =>
    by_cases h : n < 10
    · rw [digits_of_lt h, extend?, value?_digitChar h]
      show some (10 * 0 + n) = some n
      rw [Nat.mul_zero, Nat.zero_add]
    · have hmod : n % 10 < 10 := Nat.mod_lt _ (by decide)
      rw [digits_eq_append (by omega), extend?_append, ih _ (by omega), Option.bind_some, extend?,
        value?_digitChar hmod]
      exact congrArg some (Nat.div_add_mod n 10)

/-- Decimal digits read back as the number. -/
theorem number?_digits (n : Nat) : number? (digits n) = some n := by
  obtain ⟨c, rest, hdigits⟩ := List.exists_cons_of_ne_nil (digits_ne_nil n)
  have hread := extend?_digits n
  rw [hdigits] at hread ⊢
  exact hread

/-- Only zero has a zero in front. -/
theorem digits_zero_cons {n : Nat} {rest : Text} (h : digits n = '0' :: rest) : rest = [] := by
  induction n using Nat.strongRecOn generalizing rest with
  | _ n ih =>
    by_cases hlt : n < 10
    · rw [digits_of_lt hlt] at h
      exact (List.cons.inj h).2.symm
    · rw [digits_eq_append (by omega)] at h
      -- The front digits would be a single zero, and that is no number above nine.
      obtain ⟨c, more, hfront⟩ := List.exists_cons_of_ne_nil (digits_ne_nil (n / 10))
      rw [hfront, List.cons_append] at h
      obtain ⟨rfl, -⟩ := List.cons.inj h
      have hmore := ih (n / 10) (by omega) hfront
      have hvalue := extend?_digits (n / 10)
      rw [hfront, hmore] at hvalue
      have hzero : n / 10 = 0 := (Option.some.inj hvalue).symm
      omega

end Decimal

/-! ### Hexadecimal digits -/

namespace Hexadecimal

theorem lowerDigits_of_lt {n : Nat} (h : n < 16) : lowerDigits n = [lowerDigit n] := by
  rw [lowerDigits, if_pos h]

theorem lowerDigits_eq_append {n : Nat} (h : 16 ≤ n) :
    lowerDigits n = lowerDigits (n / 16) ++ [lowerDigit (n % 16)] := by
  rw [lowerDigits, if_neg (by omega)]

/-- Hexadecimal digits read back as the number. -/
theorem number?_lowerDigits (n : Nat) : number? (lowerDigits n) = some n := by
  induction n using Nat.strongRecOn with
  | _ n ih =>
    by_cases h : n < 16
    · rw [lowerDigits_of_lt h, number?, List.foldlM_cons, value?_lowerDigit h]
      show some (16 * 0 + n) = some n
      rw [Nat.mul_zero, Nat.zero_add]
    · have hmod : n % 16 < 16 := Nat.mod_lt _ (by decide)
      have hfront := ih (n / 16) (by omega)
      rw [number?] at hfront
      rw [lowerDigits_eq_append (by omega), number?, List.foldlM_append, hfront]
      rw [Option.bind_eq_bind, Option.bind_some, List.foldlM_cons, value?_lowerDigit hmod]
      exact congrArg some (Nat.div_add_mod n 16)

theorem mem_lowerDigits {n : Nat} {c : Char} (h : c ∈ lowerDigits n) :
    ∃ d < 16, c = lowerDigit d := by
  induction n using Nat.strongRecOn with
  | _ n ih =>
    by_cases hlt : n < 16
    · rw [lowerDigits_of_lt hlt, List.mem_singleton] at h
      exact ⟨n, hlt, h⟩
    · rw [lowerDigits_eq_append (by omega), List.mem_append, List.mem_singleton] at h
      rcases h with hfront | hlast
      · exact ih _ (by omega) hfront
      · exact ⟨n % 16, Nat.mod_lt _ (by decide), hlast⟩

theorem lowerDigits_ne_nil (n : Nat) : lowerDigits n ≠ [] := by
  by_cases h : n < 16
  · rw [lowerDigits_of_lt h]
    exact List.cons_ne_nil _ _
  · rw [lowerDigits_eq_append (by omega)]
    exact List.append_ne_nil_of_right_ne_nil _ (List.cons_ne_nil _ _)

/-- A number with so many digits at most has no more. -/
theorem length_lowerDigits {n k : Nat} (hk : 0 < k) (h : n < Nat.pow 16 k) :
    (lowerDigits n).length ≤ k := by
  induction k generalizing n with
  | zero => exact absurd hk (Nat.lt_irrefl 0)
  | succ k ih =>
    by_cases hlt : n < 16
    · rw [lowerDigits_of_lt hlt]
      exact Nat.succ_le_succ (Nat.zero_le k)
    · have hpow : Nat.pow 16 (k + 1) = Nat.pow 16 k * 16 := rfl
      have hdiv : n / 16 < Nat.pow 16 k := by
        rw [hpow] at h
        exact Nat.div_lt_of_lt_mul (by rw [Nat.mul_comm]; exact h)
      rw [lowerDigits_eq_append (by omega), List.length_append, List.length_singleton]
      cases k with
      | zero =>
        have hone : Nat.pow 16 0 = 1 := rfl
        omega
      | succ k => exact Nat.succ_le_succ (ih (Nat.succ_pos k) hdiv)

end Hexadecimal

end RestConformance
