import RestConformance.Url.Idna.CombiningTable
import RestConformance.Url.Idna.Status
import RestConformance.Text.Numerals

/-!
# Canonical composition

Brings a text into its composed canonical form: letters with marks become single characters where
there are such, and marks that may change places stand in the order of their classes. Composed
characters are known as far as they may stand in a domain name; the mapping of a name leaves no
others.

## Main definitions

* `Idna.decompose` – a character as its parts;
* `Idna.order` – marks in the order of their classes;
* `Idna.compose` – parts put together;
* `Idna.canonical` – all three.
-/

namespace RestConformance.Idna

/-- Reads `first-last=class`. -/
def classRange? (word : Text) : Option ((Nat × Nat) × Nat) := do
  let (range, number) ← Text.splitFirst '=' word
  return (← CodePointSet.range? range, ← Decimal.number? number)

/-- A code point that is made of two others. None of the three is a capital letter. -/
structure Composition where
  composed : Nat
  first : Nat
  second : Nat
  /-- No capital letter takes part. -/
  no_capital : [composed, first, second].all (fun n => !(Char.ofNat n).isUpper) = true
  deriving Repr

/-- Reads `composed=first+second`. -/
def composedPair? (word : Text) : Option Composition := do
  let (composed, parts) ← Text.splitFirst '=' word
  let (first, second) ← Text.splitFirst '+' parts
  let composed ← Hexadecimal.number? composed
  let first ← Hexadecimal.number? first
  let second ← Hexadecimal.number? second
  if h : [composed, first, second].all (fun n => !(Char.ofNat n).isUpper) then
    some ⟨composed, first, second, h⟩
  else none

/-- The ranges of the classes other than zero. -/
@[irreducible] def classRanges : List ((Nat × Nat) × Nat) :=
  (CodePointSet.words combiningClasses).filterMap classRange?

/-- The composed code points with their parts. -/
@[irreducible] def compositions : List Composition :=
  (CodePointSet.words composedPairs).filterMap composedPair?

/-- The canonical combining class of a character. Characters of class zero keep their place. -/
def combiningClass (c : Char) : Nat :=
  if c.toNat < 0x300 then 0
  else
    match classRanges.find? fun row => row.1.1 ≤ c.toNat && c.toNat ≤ row.1.2 with
    | some row => row.2
    | none => 0

/-! ### Syllables of Hangul -/

/-- The parts of a syllable: the letters at its start and in its middle, and the letter at its end
if it has one. -/
def syllableParts? (c : Char) : Option Text :=
  if 0xAC00 ≤ c.toNat ∧ c.toNat ≤ 0xD7A3 then
    let place := c.toNat - 0xAC00
    let front := [Char.ofNat (0x1100 + place / 588), Char.ofNat (0x1161 + place % 588 / 28)]
    some (if place % 28 = 0 then front else front ++ [Char.ofNat (0x11A7 + place % 28)])
  else none

/-- The syllable of two parts. -/
def syllable? (first second : Char) : Option Char :=
  let a := first.toNat
  let b := second.toNat
  if 0x1100 ≤ a ∧ a ≤ 0x1112 ∧ 0x1161 ≤ b ∧ b ≤ 0x1175 then
    some (Char.ofNat (0xAC00 + ((a - 0x1100) * 21 + (b - 0x1161)) * 28))
  else if 0xAC00 ≤ a ∧ a ≤ 0xD7A3 ∧ (a - 0xAC00) % 28 = 0 ∧ 0x11A8 ≤ b ∧ b ≤ 0x11C2 then
    some (Char.ofNat (a + (b - 0x11A7)))
  else none

/-! ### Taking apart, ordering, putting together -/

/-- The parts of a character by a row of the table, with the first one taken apart by `deeper`. -/
def takeApart (deeper : Char → Text) (c : Char) : Option Composition → Text
  | some row => deeper (Char.ofNat row.first) ++ [Char.ofNat row.second]
  | none => [c]

/-- The parts of a character. A first part may have parts itself, three levels deep at most. -/
def decomposeTo : Nat → Char → Text
  | 0, c => [c]
  | depth + 1, c =>
    takeApart (decomposeTo depth) c (compositions.find? (·.composed == c.toNat))

/-- A character as its parts. -/
def decompose (c : Char) : Text :=
  if c.toNat < 0xC0 then [c]
  else
    match syllableParts? c with
    | some parts => parts
    | none => decomposeTo 3 c

/-- Puts a mark in front of the marks of a higher class at the end of a reversed text. -/
def insertMark (c : Char) : Text → Text
  | [] => [c]
  | d :: before =>
    if combiningClass c < combiningClass d then d :: insertMark c before else c :: d :: before

/-- A text with its marks in the order of their classes. -/
def order (t : Text) : Text :=
  (t.foldl (fun reversed c =>
    if combiningClass c = 0 then c :: reversed else insertMark c reversed) []).reverse

/-- The character that two parts make. -/
def pair? (first second : Char) : Option Char :=
  match syllable? first second with
  | some c => some c
  | none =>
    (compositions.find? fun row => row.first == first.toNat && row.second == second.toNat).map
      fun row => Char.ofNat row.composed

/-- Puts parts together. `starter` is the last character of class zero and `marks` holds the marks
behind it that found no partner; a mark can only join the starter if every mark between them has
a lower class. -/
def composeFrom (starter : Char) (marks : Text) : Text → Text
  | [] => starter :: marks
  | c :: rest =>
    let open_ :=
      match marks.getLast? with
      | none => true
      | some last => combiningClass last < combiningClass c
    match if open_ then pair? starter c else none with
    | some joined => composeFrom joined marks rest
    | none =>
      if combiningClass c = 0 then starter :: marks ++ composeFrom c [] rest
      else composeFrom starter (marks ++ [c]) rest

/-- Puts the parts of a text together. Marks at its start stay as they are. -/
def compose (t : Text) : Text :=
  let isMark := fun c => combiningClass c != 0
  t.takeWhile isMark ++
    match t.dropWhile isMark with
    | [] => []
    | c :: rest => composeFrom c [] rest

/-- Whether a character has no parts and joins with none of its kind: one of ASCII or an
ideograph. -/
def isSettled (c : Char) : Bool :=
  c.toNat < 0x80 || isIdeograph c

/-- The composed canonical form of a text. -/
def canonical (t : Text) : Text :=
  if t.all isSettled then t else compose (order (t.flatMap decompose))

end RestConformance.Idna
