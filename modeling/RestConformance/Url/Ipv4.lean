import RestConformance.Text.Numerals

/-!
# Addresses of Internet Protocol version 4

A host whose last label is a number is such an address. It has one to four numbers between dots,
each in decimal, in octal after `0`, or in hexadecimal after `0x`; the last one fills all bytes
that the others leave. The written form is always four decimal numbers.

## Main definitions

* `Ipv4` – the address;
* `Ipv4.endsInNumber` – whether a host has to be read as an address;
* `Ipv4.read?`, `Ipv4.write` – reading and writing.
-/

namespace RestConformance

/-- An address of four bytes. -/
structure Ipv4 where
  /-- The address as one number. -/
  value : Fin UInt32.size
  deriving DecidableEq, Repr

namespace Ipv4

/-- The value of an octal digit. -/
def octalValue? (c : Char) : Option Nat :=
  if '0' ≤ c ∧ c ≤ '7' then some (c.toNat - '0'.toNat) else none

/-- The number that digits of a base write. No digits write zero. -/
def digits? (base : Nat) (value? : Char → Option Nat) (t : Text) : Option Nat :=
  t.foldlM (fun n c => (value? c).map (base * n + ·)) 0

/-- The number that one part of an address writes. -/
def number? : Text → Option Nat
  | [] => none
  | '0' :: 'x' :: rest => digits? 16 Hexadecimal.value? rest
  | '0' :: 'X' :: rest => digits? 16 Hexadecimal.value? rest
  | '0' :: c :: rest => digits? 8 octalValue? (c :: rest)
  | t => digits? 10 Decimal.value? t

/-- The parts of a host between dots. A dot at the end closes the last part. -/
def parts (host : Text) : List Text :=
  -- Only one dot at the end closes; a second one leaves an empty part.
  let all := Text.splitAll '.' host
  if all.getLast? = some [] then all.dropLast else all

/-- Whether the last part of a host is a number, so that the host must be an address. -/
def endsInNumber (host : Text) : Bool :=
  match (parts host).getLast? with
  | none => false
  | some last => (!last.isEmpty && last.all Char.isDigit) || (number? last).isSome

/-- How many values some bytes have. -/
def byteValues (count : Nat) : Nat :=
  Nat.pow 256 count

/-- The address that some numbers give: all but the last are bytes, and the last one fills what is
left. -/
def combine? (numbers : List Nat) : Option Ipv4 :=
  match numbers.getLast? with
  | none => none
  | some last =>
    let front := numbers.dropLast
    let room := 4 - front.length
    if front.length < 4 ∧ front.all (· < 256) ∧ last < byteValues room then
      let high := front.foldl (fun n b => n * 256 + b) 0
      if h : high * byteValues room + last < UInt32.size then
        some ⟨⟨high * byteValues room + last, h⟩⟩
      else none
    else none

/-- The address that a host writes. -/
def read? (host : Text) : Option Ipv4 :=
  match (parts host).mapM number? with
  | none => none
  | some numbers => combine? numbers

/-- The byte of an address at a place, counted from the left. -/
def byte (address : Ipv4) (place : Nat) : Nat :=
  address.value.val / byteValues (3 - place) % 256

/-- The written form: four decimal numbers with dots between them. -/
def write (address : Ipv4) : Text :=
  Decimal.digits (address.byte 0) ++ '.' :: Decimal.digits (address.byte 1) ++
    '.' :: Decimal.digits (address.byte 2) ++ '.' :: Decimal.digits (address.byte 3)

end Ipv4

end RestConformance
