import RestConformance.Text.Basic

/-!
# Numerals

Natural numbers written with the digits 0 to 9, where any number of leading zeros is read and none
is written, and hexadecimal digits with both cases of letters.

Unicode properties are given as ranges of code points. The tables of this library write them in
hexadecimal, `first-last` or a single number, with blanks and line ends between them.

## Main definitions

* `Decimal.number?`, `Decimal.digits` – reading and writing decimal numbers;
* `Hexadecimal.value?`, `Hexadecimal.lowerDigit`, `Hexadecimal.upperDigit` – a digit and its value;
* `CodePointSet`, `CodePointSet.ofTable` – a set of code points, and the one that a table writes.
-/

namespace RestConformance

/-! ### Decimal numbers -/

namespace Decimal

/-- The value of one of the digits 0 to 9. -/
def value? (c : Char) : Option Nat :=
  if '0' ≤ c ∧ c ≤ '9' then some (c.toNat - '0'.toNat) else none

/-- Adds digits to the right of a number that is already read. -/
def extend? (n : Nat) : Text → Option Nat
  | [] => some n
  | c :: rest =>
    match value? c with
    | some d => extend? (10 * n + d) rest
    | none => none

/-- The number that one or more digits write. -/
def number? : Text → Option Nat
  | [] => none
  | digits => extend? 0 digits

/-- The digits of a number. -/
def digits (n : Nat) : Text :=
  (toString n).toList

end Decimal

/-! ### Hexadecimal digits -/

namespace Hexadecimal

/-- The value of a hexadecimal digit in either case. -/
def value? (c : Char) : Option Nat :=
  if '0' ≤ c ∧ c ≤ '9' then some (c.toNat - '0'.toNat)
  else if 'a' ≤ c ∧ c ≤ 'f' then some (c.toNat - 'a'.toNat + 10)
  else if 'A' ≤ c ∧ c ≤ 'F' then some (c.toNat - 'A'.toNat + 10)
  else none

/-- The lower-case digit of a value below sixteen. -/
def lowerDigit (n : Nat) : Char :=
  if n < 10 then Char.ofNat ('0'.toNat + n) else Char.ofNat ('a'.toNat + (n - 10))

/-- The upper-case digit of a value below sixteen. -/
def upperDigit (n : Nat) : Char :=
  if n < 10 then Char.ofNat ('0'.toNat + n) else Char.ofNat ('A'.toNat + (n - 10))

/-- The digits of a number in lower case, with no leading zero unless the number is zero. -/
def lowerDigits (n : Nat) : Text :=
  if n < 16 then [lowerDigit n] else lowerDigits (n / 16) ++ [lowerDigit (n % 16)]

/-- The number written by hexadecimal digits, or nothing if some character is no such digit.
No digits at all write zero. -/
def number? (digits : Text) : Option Nat :=
  digits.foldlM (fun n c => (value? c).map (16 * n + ·)) 0

theorem value?_lowerDigit {n : Nat} (h : n < 16) : value? (lowerDigit n) = some n := by
  have table : ∀ k ∈ List.range 16, value? (lowerDigit k) = some k := by decide
  exact table n (List.mem_range.mpr h)

theorem value?_upperDigit {n : Nat} (h : n < 16) : value? (upperDigit n) = some n := by
  have table : ∀ k ∈ List.range 16, value? (upperDigit k) = some k := by decide
  exact table n (List.mem_range.mpr h)

end Hexadecimal

/-! ### Sets of code points -/

/-- A set of code points, as ranges that contain both their ends. -/
structure CodePointSet where
  /-- The ranges, in ascending order. -/
  ranges : List (Nat × Nat)
  deriving DecidableEq, Repr

namespace CodePointSet

/-- Whether a character lies in one of the ranges. -/
def contains (s : CodePointSet) (c : Char) : Bool :=
  s.ranges.any fun range => range.1 ≤ c.toNat && c.toNat ≤ range.2

/-- The words of a table: what stands between blanks and line ends. -/
def words (table : String) : List Text :=
  ((Text.splitAll '\n' table.toList).flatMap (Text.splitAll ' ')).filter (!·.isEmpty)

/-- Reads `first-last` or a single code point. -/
def range? (word : Text) : Option (Nat × Nat) :=
  match Text.splitFirst '-' word with
  | none => (Hexadecimal.number? word).map fun n => (n, n)
  | some (first, last) =>
    match Hexadecimal.number? first, Hexadecimal.number? last with
    | some a, some b => some (a, b)
    | _, _ => none

/-- The set that a table writes. Words that are no ranges add nothing. -/
@[irreducible] def ofTable (table : String) : CodePointSet :=
  ⟨(words table).filterMap range?⟩

end CodePointSet

end RestConformance
