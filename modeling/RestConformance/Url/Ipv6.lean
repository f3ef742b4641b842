import RestConformance.Text.Numerals

/-!
# Addresses of Internet Protocol version 6

Eight pieces of sixteen bits, written in hexadecimal between colons. One run of zero pieces may be
left out, which leaves two colons, and the last two pieces may be written as four decimal bytes.
The written form leaves out the first of the longest runs of at least two zeros.

## Main definitions

* `Ipv6` – the address;
* `Ipv6.read?`, `Ipv6.write` – reading and writing, without the brackets of a host.
-/

namespace RestConformance

/-- An address of eight pieces. -/
structure Ipv6 where
  pieces : List UInt16
  length_eq : pieces.length = 8
  deriving DecidableEq, Repr

namespace Ipv6

/-- The number below 256 that one to three digits without a leading zero write. -/
def byte? (digits : Text) : Option Nat :=
  match digits with
  | '0' :: _ :: _ => none
  | _ =>
    match Decimal.number? digits with
    | some n => if n < 256 then some n else none
    | none => none

/-- The two pieces that four decimal bytes write. -/
def dotted? (t : Text) : Option (List UInt16) :=
  match (Text.splitAll '.' t).mapM byte? with
  | some [a, b, c, d] => some [UInt16.ofNat (a * 256 + b), UInt16.ofNat (c * 256 + d)]
  | _ => none

/-- The hexadecimal digits at the start of a text, four at most. -/
def leadingDigits (t : Text) : Text :=
  (t.take 4).takeWhile fun c => (Hexadecimal.value? c).isSome

/-- The piece that hexadecimal digits write. -/
def piece (digits : Text) : UInt16 :=
  UInt16.ofNat ((Hexadecimal.number? digits).getD 0)

/-- The pieces that are read, and where the gap of left out zeros comes among them. The gap itself
counts as one zero piece. -/
structure Reading where
  pieces : List UInt16
  /-- The number of pieces before the place where more zeros may come. -/
  gap : Option Nat
  deriving Repr

/-- Reads the pieces that are still to come. -/
def readPieces (t : Text) (found : Reading) : Option Reading :=
  match t with
  | [] => some found
  | ':' :: rest =>
    -- The colon before this one was read with the piece in front of it.
    if found.pieces.length = 8 ∨ found.gap.isSome then none
    else readPieces rest ⟨found.pieces ++ [0], some (found.pieces.length + 1)⟩
  | c :: rest =>
    if found.pieces.length = 8 then none
    else
      let digits := leadingDigits (c :: rest)
      if digits.isEmpty then none
      else
        match _h : rest.drop (digits.length - 1) with
        | [] => some ⟨found.pieces ++ [piece digits], found.gap⟩
        | ':' :: more =>
          if more.isEmpty then none
          else readPieces more ⟨found.pieces ++ [piece digits], found.gap⟩
        | '.' :: _ =>
          if found.pieces.length ≤ 6 then
            (dotted? (c :: rest)).map fun last => ⟨found.pieces ++ last, found.gap⟩
          else none
        | _ => none
termination_by t.length
decreasing_by
  · simp
  · have shorter : (':' :: more).length ≤ rest.length := by
      rw [← _h]; simp
    simp only [List.length_cons] at shorter ⊢
    omega

/-- All eight pieces: zeros fill the gap. -/
def fill (found : Reading) : List UInt16 :=
  match found.gap with
  | none => found.pieces
  | some place =>
    found.pieces.take place ++ List.replicate (8 - found.pieces.length) 0 ++
      found.pieces.drop place

/-- The address that a text writes. -/
def read? (t : Text) : Option Ipv6 :=
  let reading :=
    match t with
    | ':' :: ':' :: rest => readPieces rest ⟨[0], some 1⟩
    | ':' :: _ => none
    | [] => none
    | [_] => none
    | _ => readPieces t ⟨[], none⟩
  match reading with
  | none => none
  | some found => if h : (fill found).length = 8 then some ⟨fill found, h⟩ else none

/-- The length of the run of zeros at the start of some pieces. -/
def zeros (pieces : List UInt16) : Nat :=
  (pieces.takeWhile (· == 0)).length

/-- The place and the length of the first of the longest runs of zeros. -/
def longestZeros (pieces : List UInt16) : Nat × Nat :=
  (List.range pieces.length).foldl
    (fun best place =>
      let length := zeros (pieces.drop place)
      if best.2 < length then (place, length) else best)
    (0, 0)

/-- Some pieces with colons between them. -/
def writePieces (pieces : List UInt16) : Text :=
  Text.join [':'] (pieces.map fun p => Hexadecimal.lowerDigits p.toNat)

def write (address : Ipv6) : Text :=
  let (place, length) := longestZeros address.pieces
  if length < 2 then writePieces address.pieces
  else
    writePieces (address.pieces.take place) ++ [':', ':'] ++
      writePieces (address.pieces.drop (place + length))

end Ipv6

end RestConformance
