import RestConformance.Text.Basic

/-!
# Punycode

A label of a domain name in letters, digits and hyphens only. The ASCII characters come first, then
a hyphen if there are any, then every other character as a number: how many states the insertion
machine walks from one character to the next, in a notation of base 36 whose thresholds adapt to
the numbers written so far.

## Main definitions

* `Punycode.encode` – the written form of a label;
* `Punycode.decode?` – the label that a text writes.

## Design notes

No loop counts steps. Writing a number ends because the number shrinks, writing a label because the
code points to come are a list, and reading because every number takes characters from the input.
-/

namespace RestConformance.Punycode

/-- The character of a digit: `a` to `z`, then `0` to `9`. -/
def digitChar (d : Nat) : Char :=
  if d < 26 then Char.ofNat (0x61 + d) else Char.ofNat (0x30 + (d - 26))

/-- The value of a digit, with letters in either case. -/
def digitValue? (c : Char) : Option Nat :=
  let n := c.toNat
  if 0x61 ≤ n ∧ n ≤ 0x7A then some (n - 0x61)
  else if 0x41 ≤ n ∧ n ≤ 0x5A then some (n - 0x41)
  else if 0x30 ≤ n ∧ n ≤ 0x39 then some (n - 0x30 + 26)
  else none

/-- The value below which a digit at position `k` ends its number, between 1 and 26. -/
def threshold (k bias : Nat) : Nat :=
  if k ≤ bias then 1 else if bias + 26 ≤ k then 26 else k - bias

theorem one_le_threshold (k bias : Nat) : 1 ≤ threshold k bias := by
  unfold threshold; split
  · omega
  · split <;> omega

theorem threshold_le (k bias : Nat) : threshold k bias ≤ 26 := by
  unfold threshold; split
  · omega
  · split <;> omega

/-- Scales a difference down below 456 and counts 36 for each division. -/
def scale (delta k : Nat) : Nat × Nat :=
  if 455 < delta then scale (delta / 35) (k + 36) else (delta, k)
termination_by delta
decreasing_by omega

/-- The bias after a difference has been written, where `count` characters are placed now. -/
def adapt (delta count : Nat) (first : Bool) : Nat :=
  let damped := if first then delta / 700 else delta / 2
  let (rest, k) := scale (damped + damped / count) 0
  k + 36 * rest / (rest + 38)

/-! ### Writing -/

/-- The digits of a number from position `k` on. -/
def writeNumber (bias k n : Nat) : Text :=
  let t := threshold k bias
  if n < t then [digitChar n]
  else digitChar (t + (n - t) % (36 - t)) :: writeNumber bias (k + 36) ((n - t) / (36 - t))
termination_by n
decreasing_by
  have := one_le_threshold k bias
  have := threshold_le k bias
  calc (n - threshold k bias) / (36 - threshold k bias)
      ≤ n - threshold k bias := Nat.div_le_self _ _
    _ < n := by omega

/-- Where a writer stands: what it has written, the difference since, the bias, and how many
characters of the label are placed. -/
structure Writer where
  written : Text
  /-- The states walked since the last number. -/
  delta : Nat
  /-- The bias of the next number. -/
  bias : Nat
  placed : Nat

/-- Passes one character of the label while the code point `n` is being placed. -/
def Writer.pass (basic n : Nat) (w : Writer) (c : Char) : Writer :=
  if c.toNat < n then { w with delta := w.delta + 1 }
  else if c.toNat = n then
    { written := w.written ++ writeNumber w.bias 36 w.delta
      delta := 0
      bias := adapt w.delta (w.placed + 1) (w.placed == basic)
      placed := w.placed + 1 }
  else w

/-- Places the code points of a list in turn, `n` being the next one that could come. -/
def place (label : Text) (basic : Nat) : List Nat → Nat → Writer → Writer
  | [], _, w => w
  | m :: rest, n, w =>
    -- The machine passes every place of the text for each code point that does not occur.
    let walked := { w with delta := w.delta + (m - n) * (w.placed + 1) }
    let passed := label.foldl (Writer.pass basic m) walked
    place label basic rest (m + 1) { passed with delta := passed.delta + 1 }

/-- Puts a number into an ascending list that does not hold it yet. -/
def insert (n : Nat) : List Nat → List Nat
  | [] => [n]
  | m :: rest => if n < m then n :: m :: rest else if n = m then m :: rest else m :: insert n rest

/-- The code points beyond ASCII in ascending order, each once. -/
def extended (label : Text) : List Nat :=
  ((label.filter fun c => 0x80 ≤ c.toNat).map Char.toNat).foldr insert []

def encode (label : Text) : Text :=
  let basic := label.filter fun c => c.toNat < 0x80
  let start : Writer := ⟨[], 0, 72, basic.length⟩
  basic ++ (if basic.isEmpty then [] else ['-']) ++
    (place label basic.length (extended label) 0x80 start).written

/-! ### Reading -/

/-- Reads a number from position `k` on, where a digit there counts `weight` and `n` is read
already. Gives the number and the text behind it. -/
def readNumber (bias : Nat) : Text → (k weight n : Nat) → Option (Nat × Text)
  | [], _, _, _ => none
  | c :: rest, k, weight, n =>
    match digitValue? c with
    | none => none
    | some d =>
      let t := threshold k bias
      if d < t then some (n + d * weight, rest)
      else readNumber bias rest (k + 36) (weight * (36 - t)) (n + d * weight)

theorem length_lt_of_readNumber (bias : Nat) (t : Text) (k weight n : Nat) (found : Nat × Text)
    (h : readNumber bias t k weight n = some found) : found.2.length < t.length := by
  induction t generalizing k weight n with
  | nil => simp [readNumber] at h
  | cons c rest ih =>
    rw [readNumber] at h
    split at h
    · simp at h
    · dsimp only at h
      split at h
      · rw [← Option.some.inj h]; simp
      · have := ih _ _ _ h
        simp only [List.length_cons]; omega

/-- Whether a number is the code point of a character. -/
def isScalar (n : Nat) : Bool :=
  n < 0xD800 || (0xE000 ≤ n && n < 0x110000)

/-- Places the characters that the rest of the input writes into those that are placed. -/
def readPlaces (bias n i : Nat) (placed : Text) (t : Text) : Option Text :=
  match t with
  | [] => some placed
  | c :: rest =>
    match h : readNumber bias (c :: rest) 36 1 i with
    | none => none
    | some (j, after) =>
      let count := placed.length + 1
      let m := n + j / count
      let position := j % count
      if isScalar m then
        readPlaces (adapt (j - i) count (i == 0)) m (position + 1)
          (placed.insertIdx position (Char.ofNat m)) after
      else none
termination_by t.length
decreasing_by exact length_lt_of_readNumber _ _ _ _ _ _ h

/-- The label that a text writes. Everything before the last hyphen is ASCII as it stands; a
hyphen with nothing before it separates nothing. -/
def decode? (t : Text) : Option Text :=
  let (basic, rest) :=
    match Text.splitLast '-' t with
    | some (c :: basic, rest) => (c :: basic, rest)
    | _ => ([], t)
  if basic.all fun c => c.toNat < 0x80 then readPlaces 72 0x80 0 basic rest else none

theorem digitValue?_digitChar {d : Nat} (h : d < 36) : digitValue? (digitChar d) = some d := by
  have table : ∀ k ∈ List.range 36, digitValue? (digitChar k) = some k := by decide
  exact table d (List.mem_range.mpr h)

/-- A number reads back from its digits, whatever text follows. -/
theorem readNumber_writeNumber (bias : Nat) (q k weight n : Nat) (rest : Text) :
    readNumber bias (writeNumber bias k q ++ rest) k weight n = some (n + q * weight, rest) := by
  induction q using Nat.strongRecOn generalizing k weight n with
  | _ q ih =>
    have h1 := one_le_threshold k bias
    have h2 := threshold_le k bias
    rw [writeNumber]
    split
    · next hlt =>
      rw [List.cons_append, List.nil_append, readNumber,
        digitValue?_digitChar (show q < 36 by omega)]
      simp only [hlt, if_true]
    · next hge =>
      have hmod : (q - threshold k bias) % (36 - threshold k bias) < 36 - threshold k bias :=
        Nat.mod_lt _ (by omega)
      have hdiv : (q - threshold k bias) / (36 - threshold k bias) < q :=
        Nat.lt_of_le_of_lt (Nat.div_le_self _ _) (by omega)
      have hsum := Nat.mod_add_div' (q - threshold k bias) (36 - threshold k bias)
      rw [List.cons_append, readNumber, digitValue?_digitChar (by omega)]
      dsimp only
      rw [if_neg (by omega), ih _ hdiv]
      have hq : q = threshold k bias + (q - threshold k bias) % (36 - threshold k bias) +
          (q - threshold k bias) / (36 - threshold k bias) * (36 - threshold k bias) := by omega
      have hswap : (q - threshold k bias) / (36 - threshold k bias) *
          (weight * (36 - threshold k bias)) =
          (q - threshold k bias) / (36 - threshold k bias) * (36 - threshold k bias) * weight := by
        rw [Nat.mul_comm weight, Nat.mul_assoc]
      rw [hswap, Nat.add_assoc, ← Nat.add_mul, ← hq]

end RestConformance.Punycode
