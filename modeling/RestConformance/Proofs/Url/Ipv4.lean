import RestConformance.Proofs.Text.Cutting
import RestConformance.Proofs.Text.Digits
import RestConformance.Url.Ipv4

/-!
# Addresses of four bytes read back

The written form of an address of version 4 is recognised as such and gives the address again.

## Main results

* `Ipv4.read?_write` – the written form reads back;
* `Ipv4.endsInNumber_write` – no other reading of it is tried.
-/

namespace RestConformance.Ipv4

variable (address : Ipv4)

/-! ### Numbers -/

theorem digits?_ten_digits (n : Nat) : digits? 10 Decimal.value? (Decimal.digits n) = some n := by
  induction n using Nat.strongRecOn with
  | _ n ih =>
    by_cases h : n < 10
    · rw [Decimal.digits_of_lt h, digits?, List.foldlM_cons, Decimal.value?_digitChar h]
      show some (10 * 0 + n) = some n
      rw [Nat.mul_zero, Nat.zero_add]
    · have hmod : n % 10 < 10 := Nat.mod_lt _ (by decide)
      have hfront := ih (n / 10) (by omega)
      rw [digits?] at hfront
      rw [Decimal.digits_eq_append (by omega), digits?, List.foldlM_append, hfront]
      rw [Option.bind_eq_bind, Option.bind_some, List.foldlM_cons, Decimal.value?_digitChar hmod]
      exact congrArg some (Nat.div_add_mod n 10)

/-- Decimal digits are not mistaken for octal ones, because only zero starts with a zero. -/
theorem number?_digits (n : Nat) : number? (Decimal.digits n) = some n := by
  have hdigits := digits?_ten_digits n
  unfold number?
  split
  · next h => exact absurd h (Decimal.digits_ne_nil n)
  · next h => exact absurd (Decimal.digits_zero_cons h) (List.cons_ne_nil _ _)
  · next h => exact absurd (Decimal.digits_zero_cons h) (List.cons_ne_nil _ _)
  · next h => exact absurd (Decimal.digits_zero_cons h) (List.cons_ne_nil _ _)
  · exact hdigits

/-! ### The written form -/

/-- The four parts of the written form. -/
def writtenParts : List Text :=
  [Decimal.digits (address.byte 0), Decimal.digits (address.byte 1),
    Decimal.digits (address.byte 2), Decimal.digits (address.byte 3)]

theorem write_eq_join : address.write = Text.join ['.'] address.writtenParts := by
  simp [write, writtenParts, Text.join]

theorem mem_writtenParts {part : Text} (h : part ∈ address.writtenParts) :
    ∃ n, part = Decimal.digits n := by
  simp only [writtenParts, List.mem_cons, List.not_mem_nil, or_false] at h
  rcases h with rfl | rfl | rfl | rfl <;> exact ⟨_, rfl⟩

theorem isDigit_of_mem_writtenParts {part : Text} (h : part ∈ address.writtenParts) {c : Char}
    (hc : c ∈ part) : c.isDigit = true := by
  obtain ⟨n, rfl⟩ := address.mem_writtenParts h
  exact Decimal.isDigit_of_mem_digits hc

theorem splitAll_write : Text.splitAll '.' address.write = address.writtenParts := by
  rw [write_eq_join]
  refine Text.splitAll_join (List.cons_ne_nil _ _) fun part hpart hdot => ?_
  have hdigit := address.isDigit_of_mem_writtenParts hpart hdot
  exact absurd hdigit (by decide)

theorem parts_write : parts address.write = address.writtenParts := by
  rw [parts, splitAll_write]
  exact if_neg fun h => Decimal.digits_ne_nil _ (Option.some.inj h)

/-- The written form is recognised as an address. -/
theorem endsInNumber_write : endsInNumber address.write = true := by
  rw [endsInNumber, parts_write]
  show (_ || (number? (Decimal.digits (address.byte 3))).isSome) = true
  rw [number?_digits]
  exact Bool.or_true _

/-- Four bytes are the digits of the address to the base of 256. -/
theorem combine?_four {a b c d : Nat} (ha : a < 256) (hb : b < 256) (hc : c < 256) (hd : d < 256)
    (h : ((a * 256 + b) * 256 + c) * 256 + d < UInt32.size) :
    combine? [a, b, c, d] = some ⟨⟨((a * 256 + b) * 256 + c) * 256 + d, h⟩⟩ := by
  simp [combine?, byteValues, ha, hb, hc, hd, h]

theorem combine?_bytes :
    combine? [address.byte 0, address.byte 1, address.byte 2, address.byte 3] = some address := by
  have hbyte0 : address.byte 0 = address.value.val / 16777216 % 256 := rfl
  have hbyte1 : address.byte 1 = address.value.val / 65536 % 256 := rfl
  have hbyte2 : address.byte 2 = address.value.val / 256 % 256 := rfl
  have hbyte3 : address.byte 3 = address.value.val / 1 % 256 := rfl
  have hbound : address.value.val < UInt32.size := address.value.isLt
  have hsize : UInt32.size = 4294967296 := rfl
  have hvalue : ((address.byte 0 * 256 + address.byte 1) * 256 + address.byte 2) * 256 +
      address.byte 3 = address.value.val := by omega
  rw [combine?_four (by omega) (by omega) (by omega) (by omega) (by omega)]
  exact congrArg some (congrArg Ipv4.mk (Fin.ext hvalue))

/-- The written form reads back. -/
theorem read?_write : read? address.write = some address := by
  rw [read?, parts_write, writtenParts]
  simp only [List.mapM_cons, List.mapM_nil, number?_digits, Option.bind_eq_bind, Option.bind_some,
    Option.pure_def]
  exact address.combine?_bytes

end RestConformance.Ipv4
