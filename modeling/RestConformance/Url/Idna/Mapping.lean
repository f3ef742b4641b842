import RestConformance.Url.Idna.Status
import RestConformance.Url.Idna.MappingTable
import RestConformance.Text.Numerals

/-!
# Mapping of domain names

The characters of a domain name are replaced one by one before anything else is done with it:
capital letters become small ones, compatibility forms become what they stand for, some characters
are dropped, and a name with a character that may not occur has no mapping.

## Main definitions

* `Idna.mapChar?` – what a character is replaced by;
* `Idna.map?` – what a name is replaced by.
-/

namespace RestConformance.Idna

/-- A run of code points that all move by the same distance. None of them becomes a capital
letter. -/
structure MovedRun where
  first : Nat
  last : Nat
  /-- The distance between neighbours of the run. -/
  step : Nat
  /-- What the first code point moves to. -/
  target : Nat
  /-- What the code points move to lies before the capital letters or behind them. -/
  no_capital : target + (last - first) < 0x41 ∨ 0x5A < target
  deriving Repr

/-- A code point and the text that it is replaced by, in which there is no capital letter. -/
structure Replacement where
  single : Nat
  targets : Text
  /-- There is no capital letter in it. -/
  no_capital : targets.all (fun c => !c.isUpper) = true
  deriving Repr

/-- Reads `first-last/step>target`. -/
def movedRun? (word : Text) : Option MovedRun := do
  let (first, rest) ← Text.splitFirst '-' word
  let (last, rest) ← Text.splitFirst '/' rest
  let (step, target) ← Text.splitFirst '>' rest
  let first ← Hexadecimal.number? first
  let last ← Hexadecimal.number? last
  let step ← Decimal.number? step
  let target ← Hexadecimal.number? target
  if h : target + (last - first) < 0x41 ∨ 0x5A < target then some ⟨first, last, step, target, h⟩
  else none

/-- Reads `single>first+second`. -/
def replacement? (word : Text) : Option Replacement := do
  let (single, targets) ← Text.splitFirst '>' word
  let found ← (Text.splitAll '+' targets).mapM Hexadecimal.number?
  let single ← Hexadecimal.number? single
  if h : (found.map Char.ofNat).all (fun c => !c.isUpper) then
    some ⟨single, found.map Char.ofNat, h⟩
  else none

/-- The runs of the table. -/
@[irreducible] def moved : List MovedRun :=
  (CodePointSet.words movedRuns).filterMap movedRun?

/-- The single replacements of the table. -/
@[irreducible] def replaced : List Replacement :=
  (CodePointSet.words replacedSingly).filterMap replacement?

/-- Whether a code point belongs to a run. -/
def MovedRun.holds (run : MovedRun) (n : Nat) : Bool :=
  run.first ≤ n && n ≤ run.last && (n - run.first) % run.step == 0

/-- What a character beyond ASCII is replaced by, or nothing if it may not occur. -/
def mapExtended? (c : Char) : Option Text :=
  if isIdeograph c || valid.contains c then some [c]
  else if ignored.contains c then some []
  else
    match moved.find? (·.holds c.toNat) with
    | some run => some [Char.ofNat (run.target + (c.toNat - run.first))]
    | none => (replaced.find? (·.single == c.toNat)).map Replacement.targets

/-- What a character is replaced by, or nothing if it may not occur. -/
def mapChar? (c : Char) : Option Text :=
  if c.toNat < 0x80 then some [c.toLower] else mapExtended? c

/-- What a name is replaced by, or nothing if one of its characters may not occur. -/
def map? (name : Text) : Option Text :=
  (name.mapM mapChar?).map List.flatten

end RestConformance.Idna
