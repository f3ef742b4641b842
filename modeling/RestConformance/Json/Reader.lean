import RestConformance.Json.Basic
import RestConformance.Text.Numerals

/-!
# Reading JSON

Reads the text of one JSON value. Blanks may stand around every part, a string may hold any
character from U+0020 on, and escapes above U+FFFF come as a pair of surrogates; half a pair makes
the text unreadable.

## Main definitions

* `Json.readString` – a string after its opening quote;
* `Json.readNumber` – a number;
* `Json.read?` – a whole document.
-/

namespace RestConformance.Json

/-- The characters that may stand between the parts of a document. -/
def isGap (c : Char) : Bool :=
  c == ' ' || c == '\n' || c == '\r' || c == '\t'

/-- The text after the blanks at its start. -/
def skipGap (t : Text) : Text :=
  t.dropWhile isGap

/-- The number that four hexadecimal digits write. -/
def fourDigits? (a b c d : Char) : Option Nat :=
  match Hexadecimal.value? a, Hexadecimal.value? b, Hexadecimal.value? c, Hexadecimal.value? d with
  | some a, some b, some c, some d => some (((a * 16 + b) * 16 + c) * 16 + d)
  | _, _, _, _ => none

/-- The character of a code unit that is no surrogate. -/
def unit? (n : Nat) : Option Char :=
  if 0xD800 ≤ n ∧ n < 0xE000 then none else some (Char.ofNat n)

/-- The character of a pair of surrogates. -/
def pair? (high low : Nat) : Option Char :=
  if 0xD800 ≤ high ∧ high < 0xDC00 ∧ 0xDC00 ≤ low ∧ low < 0xE000 then
    some (Char.ofNat (0x10000 + (high - 0xD800) * 0x400 + (low - 0xDC00)))
  else none

/-- The character that follows a backslash, for the escapes of a single letter. -/
def letter? (c : Char) : Option Char :=
  if c = '"' ∨ c = '\\' ∨ c = '/' then some c
  else if c = 'n' then some '\n'
  else if c = 'r' then some '\r'
  else if c = 't' then some '\t'
  else if c = 'b' then some '\x08'
  else if c = 'f' then some '\x0c'
  else none

/-- Puts a character in front of what the rest of a string reads as. -/
def prepend (c : Char) (read : Option (Text × Text)) : Option (Text × Text) :=
  read.map fun found => (c :: found.1, found.2)

/-- Reads a string after its opening quote: its characters and the text after its closing one. -/
def readString : Text → Option (Text × Text)
  | [] => none
  | '"' :: rest => some ([], rest)
  | '\\' :: 'u' :: a :: b :: c :: d :: rest =>
    match fourDigits? a b c d with
    | none => none
    | some n =>
      match unit? n with
      | some found => prepend found (readString rest)
      | none =>
        -- The first half of a pair: the second half has to follow at once.
        match rest with
        | '\\' :: 'u' :: e :: f :: g :: h :: after =>
          match (fourDigits? e f g h).bind (pair? n) with
          | some found => prepend found (readString after)
          | none => none
        | _ => none
  | '\\' :: c :: rest =>
    match letter? c with
    | some found => prepend found (readString rest)
    | none => none
  | c :: rest => if c.toNat < 0x20 ∨ c = '\\' then none else prepend c (readString rest)

/-- The digits at the start of a text, and the rest. -/
def digits (t : Text) : Text × Text :=
  (t.takeWhile Char.isDigit, t.dropWhile Char.isDigit)

/-- The whole part of a number: one zero, or digits that start with no zero. -/
def readWhole (t : Text) : Option (Text × Text) :=
  match digits t with
  | ([], _) => none
  | (['0'], rest) => some (['0'], rest)
  | ('0' :: _, _) => none
  | found => some found

/-- The fraction of a number, or nothing where there is none. -/
def readFraction (t : Text) : Option (Text × Text) :=
  match t with
  | '.' :: rest =>
    match digits rest with
    | ([], _) => none
    | (found, after) => some ('.' :: found, after)
  | _ => some ([], t)

/-- The exponent of a number, or nothing where there is none. -/
def readExponent (t : Text) : Option (Text × Text) :=
  match t with
  | c :: rest =>
    if c = 'e' ∨ c = 'E' then
      let (sign, body) :=
        match rest with
        | '+' :: body => (['+'], body)
        | '-' :: body => (['-'], body)
        | body => ([], body)
      match digits body with
      | ([], _) => none
      | (found, after) => some (c :: sign ++ found, after)
    else some ([], t)
  | [] => some ([], t)

/-- The value of a number from its written parts. -/
def numberOf (negative : Bool) (whole fraction exponent : Text) : Json :=
  let n := (Decimal.number? whole).getD 0
  -- A negative zero is kept as it is written: no integer stands for it.
  if fraction.isEmpty && exponent.isEmpty && !(negative && n == 0) then
    .integer (if negative then -(n : Int) else n)
  else .decimal ((if negative then ['-'] else []) ++ whole ++ fraction ++ exponent)

/-- Reads a number. -/
def readNumber (t : Text) : Option (Json × Text) := do
  let (negative, body) :=
    match t with
    | '-' :: body => (true, body)
    | body => (false, body)
  let (whole, rest) ← readWhole body
  let (fraction, rest) ← readFraction rest
  let (exponent, rest) ← readExponent rest
  return (numberOf negative whole fraction exponent, rest)

/-- Reads a value that has no parts. -/
def readScalar (t : Text) : Option (Json × Text) :=
  match t with
  | 'n' :: 'u' :: 'l' :: 'l' :: rest => some (.null, rest)
  | 't' :: 'r' :: 'u' :: 'e' :: rest => some (.bool true, rest)
  | 'f' :: 'a' :: 'l' :: 's' :: 'e' :: rest => some (.bool false, rest)
  | '"' :: rest => (readString rest).map fun found => (.string (String.ofList found.1), found.2)
  | _ => readNumber t

mutual

/-- Reads a value. The fuel bounds the number of values and separators on the way. -/
def readValue : Nat → Text → Option (Json × Text)
  | 0, _ => none
  | fuel + 1, t =>
    match skipGap t with
    | '[' :: rest =>
      match skipGap rest with
      | ']' :: after => some (.array [], after)
      | _ => (readItems fuel rest).map fun found => (.array found.1, found.2)
    | '\x7b' :: rest =>
      match skipGap rest with
      | '\x7d' :: after => some (.object [], after)
      | _ => (readMembers fuel rest).map fun found => (.object found.1, found.2)
    | other => readScalar other

/-- Reads one or more items and the bracket that closes their array. -/
def readItems : Nat → Text → Option (List Json × Text)
  | 0, _ => none
  | fuel + 1, t =>
    match readValue fuel t with
    | none => none
    | some (item, rest) =>
      match skipGap rest with
      | ',' :: more => (readItems fuel more).map fun found => (item :: found.1, found.2)
      | ']' :: after => some ([item], after)
      | _ => none

/-- Reads one or more members and the brace that closes their object. -/
def readMembers : Nat → Text → Option (List (String × Json) × Text)
  | 0, _ => none
  | fuel + 1, t =>
    match skipGap t with
    | '"' :: rest =>
      match readString rest with
      | none => none
      | some (name, rest) =>
        match skipGap rest with
        | ':' :: rest =>
          match readValue fuel rest with
          | none => none
          | some (value, rest) =>
            match skipGap rest with
            | ',' :: more =>
              (readMembers fuel more).map fun found =>
                ((String.ofList name, value) :: found.1, found.2)
            | '\x7d' :: after => some ([(String.ofList name, value)], after)
            | _ => none
        | _ => none
    | _ => none

end

/-- Reads a whole document: one value with nothing but blanks around it. -/
def read? (document : String) : Option Json :=
  let t := document.toList
  match readValue (t.length + 1) t with
  | some (value, rest) => if (skipGap rest).isEmpty then some value else none
  | none => none

end RestConformance.Json
