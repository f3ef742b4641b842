import RestConformance.Time.Calendar
import RestConformance.Text.Basic
import RestConformance.Text.Numerals

/-!
# Instants

A point in time with nanoseconds, in its written form `2024-01-02T03:04:05.678Z`. Reading is
generous: numbers need no leading zeros, blanks may stand before numbers and signs, the letter
between date and time may be a space, and any offset from universal time may be given. Writing is
strict: universal time, and a fraction of three, six or nine digits if there is one.

## Main definitions

* `Instant` – a point in time;
* `Instant.read?` – the instant that a string writes;
* `Instant.write` – the written form.
-/

namespace RestConformance

/-- A point in time. -/
structure Instant where
  /-- Whole seconds since the start of 1970 in universal time. -/
  seconds : Int
  /-- Nanoseconds on top; a thousand million or more of them lie in a leap second. -/
  nanos : Nat
  deriving DecidableEq, Repr

namespace Instant

/-- The number of seconds of a day. -/
def daySeconds : Int := 86400

/-- The number of nanoseconds of a second. -/
def second : Nat := 1000000000

/-- The first year that instants can lie in. -/
def firstYear : Int := -262143

/-- The last year that instants can lie in. -/
def lastYear : Int := 262142

/-- Whether a year is one that instants can lie in. -/
def isYear (year : Int) : Bool :=
  firstYear ≤ year && year ≤ lastYear

/-! ### Reading -/

/-- The text after the blanks at its start. -/
def skipBlanks (t : Text) : Text :=
  t.dropWhile isBlank

/-- Reads between one and `width` digits. -/
def readDigits? (width : Nat) (t : Text) : Option (Text × Text) :=
  let found := (t.take width).takeWhile Char.isDigit
  if found.isEmpty then none else some (found, t.drop found.length)

/-- Reads a number of at most `width` digits, with blanks before it. -/
def readNumber? (width : Nat) (t : Text) : Option (Nat × Text) := do
  let (found, rest) ← readDigits? width (skipBlanks t)
  return (← Decimal.number? found, rest)

/-- Reads a year: up to four digits, or a sign and any number of digits. -/
def readYear? (t : Text) : Option (Int × Text) := do
  match skipBlanks t with
  | '-' :: rest =>
    let (found, rest) ← readDigits? rest.length rest
    return (-((← Decimal.number? found) : Int), rest)
  | '+' :: rest =>
    let (found, rest) ← readDigits? rest.length rest
    return ((← Decimal.number? found), rest)
  | t =>
    let (year, rest) ← readNumber? 4 t
    return (year, rest)

/-- Reads a separator, with blanks before it. -/
def readSign? (sign : Char) (t : Text) : Option Text :=
  match skipBlanks t with
  | c :: rest => if c = sign then some rest else none
  | [] => none

/-- Reads a date. -/
def readDate? (t : Text) : Option (Date × Text) := do
  let (year, rest) ← readYear? t
  let rest ← readSign? '-' rest
  let (month, rest) ← readNumber? 2 rest
  let rest ← readSign? '-' rest
  let (day, rest) ← readNumber? 2 rest
  let date : Date := ⟨year, month, day⟩
  if date.isValid && isYear year then return (date, rest) else none

/-- Reads the fraction of a second in nanoseconds. Digits behind the ninth do not count. -/
def readFraction? (t : Text) : Option (Nat × Text) :=
  match t with
  | '.' :: rest => do
    let (found, rest) ← readDigits? 9 rest
    let n ← Decimal.number? found
    return (n * Nat.pow 10 (9 - found.length), rest.dropWhile Char.isDigit)
  | _ => some (0, t)

/-- Reads a time of day: its seconds and nanoseconds. The second 60 is a leap second. -/
def readTime? (t : Text) : Option ((Nat × Nat) × Text) := do
  let (hour, rest) ← readNumber? 2 t
  let rest ← readSign? ':' rest
  let (minute, rest) ← readNumber? 2 rest
  let rest ← readSign? ':' rest
  let (sec, rest) ← readNumber? 2 rest
  let (nanos, rest) ← readFraction? rest
  if 24 ≤ hour ∨ 60 ≤ minute ∨ 60 < sec then none
  else if sec = 60 then return ((3600 * hour + 60 * minute + 59, second + nanos), rest)
  else return ((3600 * hour + 60 * minute + sec, nanos), rest)

/-- Reads a number of exactly two digits. -/
def readTwoDigits? : Text → Option (Nat × Text)
  | a :: b :: rest => (Decimal.number? [a, b]).map fun n => (n, rest)
  | _ => none

/-- Reads the size of an offset in seconds: hours and minutes of two digits each, with colons or
blanks between them or nothing. -/
def readOffsetSize? (t : Text) : Option (Int × Text) := do
  let (hours, rest) ← readTwoDigits? t
  let (minutes, rest) ← readTwoDigits? (rest.dropWhile fun c => c == ':' || isBlank c)
  let size : Int := 3600 * hours + 60 * minutes
  if minutes < 60 ∧ size < daySeconds then return (size, rest) else none

/-- Reads an offset from universal time in seconds: a letter Z, the letters UTC, or a sign and a
size. -/
def readOffset? : Text → Option (Int × Text)
  | '+' :: rest => readOffsetSize? rest
  | '-' :: rest | '\u2212' :: rest => (readOffsetSize? rest).map fun found => (-found.1, found.2)
  | t =>
    match Text.lowerAscii (t.take 3) with
    | ['u', 't', 'c'] => some (0, t.drop 3)
    | 'z' :: _ => some (0, t.drop 1)
    | _ => none

/-- The date that an instant lies in, in universal time. -/
def date (instant : Instant) : Date :=
  .ofDayNumber (instant.seconds.fdiv daySeconds)

/-- The instant that a text writes. -/
def readText? (t : Text) : Option Instant := do
  let (date, rest) ← readDate? t
  let rest ←
    match rest with
    | c :: rest => if c = 't' ∨ c = 'T' ∨ c = ' ' then some rest else none
    | [] => none
  let ((seconds, nanos), rest) ← readTime? rest
  let (offset, rest) ← readOffset? (skipBlanks rest)
  let instant : Instant := ⟨date.dayNumber * daySeconds + seconds - offset, nanos⟩
  if (skipBlanks rest).isEmpty && isYear instant.date.year then return instant else none

/-- The instant that a string writes. -/
def read? (s : String) : Option Instant :=
  readText? s.toList

/-! ### Writing -/

/-- The digits of a number, with zeros in front up to a width. -/
def padded (width n : Nat) : Text :=
  let found := Decimal.digits n
  List.replicate (width - found.length) '0' ++ found

/-- A year: four digits, or a sign and at least four digits where those do not suffice. -/
def writeYear (year : Int) : Text :=
  if 0 ≤ year ∧ year ≤ 9999 then padded 4 year.toNat
  else (if year < 0 then '-' else '+') :: padded 4 year.natAbs

/-- The fraction of a second in as few groups of three digits as it takes. -/
def writeFraction (nanos : Nat) : Text :=
  if nanos = 0 then []
  else if nanos % 1000000 = 0 then '.' :: padded 3 (nanos / 1000000)
  else if nanos % 1000 = 0 then '.' :: padded 6 (nanos / 1000)
  else '.' :: padded 9 nanos

/-- The written form of an instant. -/
def writeText (instant : Instant) : Text :=
  let date := instant.date
  let ofDay := (instant.seconds.fmod daySeconds).toNat
  let sec := ofDay % 60 + instant.nanos / second
  writeYear date.year ++ '-' :: padded 2 date.month ++ '-' :: padded 2 date.day ++
    'T' :: padded 2 (ofDay / 3600) ++ ':' :: padded 2 (ofDay / 60 % 60) ++ ':' :: padded 2 sec ++
    writeFraction (instant.nanos % second) ++ ['Z']

def write (instant : Instant) : String :=
  String.ofList instant.writeText

end Instant

end RestConformance
