
/-!
# Text

Text as a list of characters, with the searches and splits that the formats of this library are
written in. Strings are used in the records of the domain; rules about characters are stated on
`Text`, where they can be proved by induction.

A character is blank when Unicode gives it the property `White_Space`. Names and settings count as
empty when they hold blank characters only, and outer blanks are dropped before numbers, addresses
and tokens are read.

## Main definitions

* `Text.contains` – one text occurs inside another;
* `Text.splitAll`, `Text.splitFirst`, `Text.splitLast` – cutting at a separator;
* `Text.trimLeft`, `Text.trimRight`, `Text.trimBoth` – dropping characters of a class at the ends;
* `isBlank`, `trimBlanks` – blank characters, and a string without those at its ends.
-/

namespace RestConformance

/-- Text as a list of characters. -/
abbrev Text := List Char

namespace Text

/-- A condition on the characters of a text is decided on these characters alone, not on every
character there is. -/
instance decidableForall {p : Char → Prop} [DecidablePred p] (t : Text) :
    Decidable (∀ c ∈ t, p c) :=
  List.decidableBAll p t

/-- Whether `needle` occurs in `hay` as a run of consecutive characters. The empty text occurs in
every text. -/
def contains (hay needle : Text) : Bool :=
  match hay with
  | [] => needle.isEmpty
  | c :: rest => needle.isPrefixOf (c :: rest) || contains rest needle

/-- All parts of a text between separators. There is one part more than there are separators. -/
def splitAll (separator : Char) : Text → List Text
  | [] => [[]]
  | c :: rest =>
    if c = separator then [] :: splitAll separator rest
    else
      match splitAll separator rest with
      | [] => [[c]]
      | part :: parts => (c :: part) :: parts

/-- The text before the first separator and the text after it. -/
def splitFirst (separator : Char) : Text → Option (Text × Text)
  | [] => none
  | c :: rest =>
    if c = separator then some ([], rest)
    else (splitFirst separator rest).map fun parts => (c :: parts.1, parts.2)

/-- The text before the last separator and the text after it. -/
def splitLast (separator : Char) : Text → Option (Text × Text)
  | [] => none
  | c :: rest =>
    match splitLast separator rest with
    | some (before, after) => some (c :: before, after)
    | none => if c = separator then some ([], rest) else none

/-- The text without the characters of a class at its start. -/
def trimLeft (p : Char → Bool) (t : Text) : Text :=
  t.dropWhile p

/-- The text without the characters of a class at its end. -/
def trimRight (p : Char → Bool) (t : Text) : Text :=
  (t.reverse.dropWhile p).reverse

/-- The text without the characters of a class at either end. -/
def trimBoth (p : Char → Bool) (t : Text) : Text :=
  trimRight p (trimLeft p t)

/-- The text with the letters A to Z in lower case and all else unchanged. -/
def lowerAscii (t : Text) : Text :=
  t.map Char.toLower

/-- Whether every character is below U+0080. -/
def isAscii (t : Text) : Bool :=
  t.all fun c => c.toNat < 0x80

/-- The parts joined with a separator between neighbours. -/
def join (separator : Text) : List Text → Text
  | [] => []
  | [part] => part
  | part :: parts => part ++ separator ++ join separator parts

theorem splitAll_ne_nil (separator : Char) (t : Text) : splitAll separator t ≠ [] := by
  cases t with
  | nil => simp [splitAll]
  | cons c rest =>
    simp only [splitAll]
    split
    · simp
    · split <;> simp

/-- Joining the parts of a split with the separator gives the text back. -/
theorem join_splitAll (separator : Char) (t : Text) :
    join [separator] (splitAll separator t) = t := by
  induction t with
  | nil => rfl
  | cons c rest ih =>
    simp only [splitAll]
    split
    · next h =>
      subst h
      match hs : splitAll c rest with
      | [] => exact absurd hs (splitAll_ne_nil c rest)
      | part :: parts => rw [hs] at ih; simp [join, ih]
    · next h =>
      match hs : splitAll separator rest with
      | [] => exact absurd hs (splitAll_ne_nil separator rest)
      | [part] => rw [hs] at ih; simpa [join] using ih
      | part :: next :: parts => rw [hs] at ih; simpa [join] using ih

end Text

/-! ### Blank characters -/

/-- The characters with the Unicode property `White_Space`. -/
def isBlank (c : Char) : Bool :=
  (0x09 ≤ c.toNat && c.toNat ≤ 0x0D) || c.toNat == 0x20 || c.toNat == 0x85 || c.toNat == 0xA0 ||
    c.toNat == 0x1680 || (0x2000 ≤ c.toNat && c.toNat ≤ 0x200A) || c.toNat == 0x2028 ||
    c.toNat == 0x2029 || c.toNat == 0x202F || c.toNat == 0x205F || c.toNat == 0x3000

/-- Whether a string has no character that is not blank. -/
def isBlankString (s : String) : Bool :=
  s.toList.all isBlank

/-- A string without the blank characters at its ends. -/
def trimBlanks (s : String) : String :=
  String.ofList (Text.trimBoth isBlank s.toList)

end RestConformance
