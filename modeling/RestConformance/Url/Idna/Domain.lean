import RestConformance.Url.Idna.Mapping
import RestConformance.Url.Idna.Composition
import RestConformance.Url.Idna.Marks
import RestConformance.Url.Idna.Direction
import RestConformance.Url.Punycode

/-!
# Domain names

The ASCII form of a domain name in any script. The name is mapped and composed, cut into labels at
its dots, and every label is brought into its plain form. A name with right-to-left letters in one
label has to keep the rules of direction in all of them.

A label has two forms: the readable one, in any script, and the plain one, which is ASCII. They
differ where the readable form is not ASCII; the plain form is then its Punycode behind `xn--`. A
label may come in either form, and both are checked by the same rules.

## Main definitions

* `Idna.isValidLabel` – the rules for a readable form that is not ASCII;
* `Idna.respectsDirection` – the rules for a label of a name with right-to-left letters;
* `Idna.Label.read?` – both forms of a label;
* `Idna.isForbidden` – the ASCII characters that no name may hold;
* `Idna.toAscii?` – the ASCII form of a name.
-/

namespace RestConformance

namespace Idna

/-! ### Joiners -/

/-- Whether the letters before a non-joiner, nearest first, join to the right. -/
def joinsBefore (before : Text) : Bool :=
  match before.dropWhile transparent.contains with
  | c :: _ => joinsLeft.contains c || joinsBoth.contains c
  | [] => false

/-- Whether the letters after a non-joiner join to the left. -/
def joinsAfter (after : Text) : Bool :=
  match after.dropWhile transparent.contains with
  | c :: _ => joinsRight.contains c || joinsBoth.contains c
  | [] => false

/-- Whether every joiner of a label stands where it has an effect: after a virama, or, for the
non-joiner, between letters that would join. `before` is what comes before `t`, nearest first. -/
def joinersFit (before : Text) : Text → Bool
  | [] => true
  | c :: rest =>
    let afterVirama :=
      match before with
      | d :: _ => combiningClass d == 9
      | [] => false
    let fits :=
      if c = '\u200D' then afterVirama
      else if c = '\u200C' then afterVirama || (joinsBefore before && joinsAfter rest)
      else true
    fits && joinersFit (c :: before) rest

/-! ### The readable form -/

/-- The text in front of the Punycode of a label. -/
def acePrefix : Text :=
  ['x', 'n', '-', '-']

/-- Whether a character is a mark. Ideographs are none. -/
def isMark (c : Char) : Bool :=
  !isIdeograph c && mark.contains c

/-- Whether a text beyond ASCII may be the readable form of a label: no mark comes first, every
character stands for itself, the text is in composed form, and joiners stand where they may. -/
def isValidLabel (t : Text) : Bool :=
  !acePrefix.isPrefixOf t && !(t.head?.any isMark) &&
    t.all (fun c => mapChar? c == some [c]) && canonical t == t && joinersFit [] t

/-! ### Direction -/

/-- The bidirectional class of a character. -/
inductive Direction where
  /-- Written from left to right. -/
  | left
  /-- Written from right to left, Arabic letters included. -/
  | right
  /-- An Arabic number. -/
  | arabicNumber
  /-- A European number. -/
  | europeanNumber
  /-- A separator, symbol or other character that takes its direction from its neighbours. -/
  | weak
  /-- A mark without a width of its own. -/
  | nonspacing
  deriving DecidableEq, Repr

/-- The class of a character. -/
def direction (c : Char) : Direction :=
  if rightToLeft.contains c || arabicLetter.contains c then .right
  else if arabicNumber.contains c then .arabicNumber
  else if europeanNumber.contains c then .europeanNumber
  else if nonspacing.contains c then .nonspacing
  else if europeanSeparator.contains c || commonSeparator.contains c ||
    europeanTerminator.contains c || neutral.contains c || boundaryNeutral.contains c then .weak
  else .left

/-- Whether a character stands in one of the blocks of scripts that are written from right to
left. -/
def isInRightToLeftBlock (c : Char) : Bool :=
  (0x590 ≤ c.toNat && c.toNat ≤ 0x8FF) || 0xFB1D ≤ c.toNat

/-- Whether a label makes its whole name follow the rules of direction. -/
def isRightToLeft (t : Text) : Bool :=
  t.any fun c =>
    isInRightToLeftBlock c && (direction c == .right || direction c == .arabicNumber)

/-- Whether a label keeps to one direction. It starts with a letter; a label from right to left
ends in a letter or a number and has one kind of numbers, one from left to right ends in a letter
or a European number; marks may follow the end. -/
def respectsDirection (t : Text) : Bool :=
  let classes := t.map direction
  let last := (classes.reverse.dropWhile (· == .nonspacing)).head?
  match classes.head? with
  | none => true
  | some .right =>
    classes.all (· != .left) &&
      (last == some .right || last == some .europeanNumber || last == some .arabicNumber) &&
      !(classes.contains .europeanNumber && classes.contains .arabicNumber)
  | some .left =>
    classes.all (fun d => d != .right && d != .arabicNumber) &&
      (last == some .left || last == some .europeanNumber)
  | some _ => false

/-! ### Both forms -/

/-- A label of a domain name. -/
structure Label where
  /-- The form in any script. -/
  readable : Text
  /-- The form in ASCII. -/
  plain : Text
  deriving DecidableEq, Repr

/-- The longest Punycode that is read, in characters behind `xn--`. -/
def longestPunycode : Nat := 2000

/-- The longest readable form that gets a Punycode, in characters. -/
def longestReadable : Nat := 1000

/-- Both forms of a label that comes as Punycode. It must stand for a text beyond ASCII. -/
def Label.ofPunycode? (code : Text) : Option Label :=
  if code.length ≤ longestPunycode then
    match Punycode.decode? code with
    | some t => if !t.isAscii && isValidLabel t then some ⟨t, acePrefix ++ code⟩ else none
    | none => none
  else none

/-- Both forms of a label that comes in a script beyond ASCII. Its Punycode must read back. -/
def Label.ofReadable? (t : Text) : Option Label :=
  if isValidLabel t && t.length ≤ longestReadable && Punycode.decode? (Punycode.encode t) == some t
  then some ⟨t, acePrefix ++ Punycode.encode t⟩
  else none

/-- Both forms of a label that comes in either form. -/
def Label.read? (t : Text) : Option Label :=
  if acePrefix.isPrefixOf t then Label.ofPunycode? (t.drop 4)
  else if t.isAscii then some ⟨t, t⟩
  else Label.ofReadable? t

/-! ### Names -/

/-- The ASCII characters that no name may hold. -/
def isForbidden (c : Char) : Bool :=
  c.toNat ≤ 0x20 || c.toNat == 0x7F || "#%/:<>?@[\\]^|".toList.contains c

/-- The labels of a name in both forms. -/
def labels? (name : Text) : Option (List Label) :=
  match map? name with
  | none => none
  | some mapped =>
    let composed := canonical mapped
    if composed.any isForbidden then none
    else
      match (Text.splitAll '.' composed).mapM Label.read? with
      | none => none
      | some labels =>
        if labels.any (fun l => isRightToLeft l.readable) &&
            !labels.all (fun l => respectsDirection l.readable) then none
        else some labels

/-- The ASCII form of a name, or nothing if it has none. -/
def toAscii? (name : Text) : Option Text :=
  (labels? name).map fun labels => Text.join ['.'] (labels.map Label.plain)

end Idna

end RestConformance
