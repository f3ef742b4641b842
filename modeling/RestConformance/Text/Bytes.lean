import RestConformance.Text.Basic

/-!
# Bytes

Text as bytes and bytes as text. Reading UTF-8 comes in two kinds: `decode?` refuses what is none,
and `decodeLossy` puts U+FFFD for every part that cannot be read. Such a part is the longest start
of a character that the bytes hold, or a single byte where no character starts.

In base 64, bytes are written in 64 printable characters: three bytes become four characters, and
equals signs fill the last group.

## Main definitions

* `Utf8.encode` – the bytes of a text;
* `Utf8.start` – the first character of a byte sequence, or the length of its unreadable start;
* `Utf8.decode?`, `Utf8.decodeLossy` – strict and tolerant reading;
* `Base64.encode` – the characters of some bytes.
-/

namespace RestConformance

/-- A sequence of bytes. -/
abbrev Bytes := List UInt8

namespace Utf8

/-- The bytes of a text. -/
def encode (t : Text) : Bytes :=
  t.flatMap String.utf8EncodeChar

/-- The bytes of a string. -/
def encodeString (s : String) : Bytes :=
  encode s.toList

/-- The lowest and the highest second byte that may follow a first byte, and the number of bytes
of the character. First bytes that start no longer character have none. -/
def following (first : Nat) : Option (Nat × Nat × Nat) :=
  if 0xC2 ≤ first ∧ first ≤ 0xDF then some (0x80, 0xBF, 2)
  else if first = 0xE0 then some (0xA0, 0xBF, 3)
  else if first = 0xED then some (0x80, 0x9F, 3)
  else if 0xE1 ≤ first ∧ first ≤ 0xEF then some (0x80, 0xBF, 3)
  else if first = 0xF0 then some (0x90, 0xBF, 4)
  else if 0xF1 ≤ first ∧ first ≤ 0xF3 then some (0x80, 0xBF, 4)
  else if first = 0xF4 then some (0x80, 0x8F, 4)
  else none

/-- What a byte sequence starts with: a character and the number of its bytes, or the number of
bytes that no character can be made of. -/
inductive Start where
  /-- A character that takes some number of bytes. -/
  | char (c : Char) (size : Nat)
  /-- That many bytes belong to no character. -/
  | unreadable (size : Nat)
  deriving DecidableEq, Repr

/-- Whether a byte may stand third or fourth in a character. -/
def isTail (b : UInt8) : Bool :=
  0x80 ≤ b.toNat && b.toNat ≤ 0xBF

/-- The six low bits that a later byte adds to a number. -/
def extend (n : Nat) (b : UInt8) : Nat :=
  n * 64 + (b.toNat - 0x80)

/-- Reads what the sequence of the byte `b` and the bytes `rest` starts with. -/
def start (b : UInt8) (rest : Bytes) : Start :=
  if b.toNat < 0x80 then .char (Char.ofNat b.toNat) 1
  else
    match following b.toNat with
    | none => .unreadable 1
    | some (low, high, size) =>
      match rest with
      | [] => .unreadable 1
      | b2 :: rest2 =>
        if b2.toNat < low ∨ high < b2.toNat then .unreadable 1
        else if size = 2 then .char (Char.ofNat (extend (b.toNat - 0xC0) b2)) 2
        else
          match rest2 with
          | [] => .unreadable 2
          | b3 :: rest3 =>
            if !isTail b3 then .unreadable 2
            else if size = 3 then .char (Char.ofNat (extend (extend (b.toNat - 0xE0) b2) b3)) 3
            else
              match rest3 with
              | [] => .unreadable 3
              | b4 :: _ =>
                if !isTail b4 then .unreadable 3
                else .char (Char.ofNat (extend (extend (extend (b.toNat - 0xF0) b2) b3) b4)) 4

/-- The text that the bytes write, with U+FFFD for every unreadable part. -/
def decodeLossy : Bytes → Text
  | [] => []
  | b :: rest =>
    match start b rest with
    | .char c size => c :: decodeLossy (rest.drop (size - 1))
    | .unreadable size => '\uFFFD' :: decodeLossy (rest.drop (size - 1))
termination_by bytes => bytes.length
decreasing_by all_goals simp only [List.length_drop, List.length_cons]; omega

/-- The text that the bytes write, or nothing if a part cannot be read. -/
def decode? : Bytes → Option Text
  | [] => some []
  | b :: rest =>
    match start b rest with
    | .char c size => (decode? (rest.drop (size - 1))).map (c :: ·)
    | .unreadable _ => none
termination_by bytes => bytes.length
decreasing_by simp only [List.length_drop, List.length_cons]; omega

/-- The string that the bytes write, with U+FFFD for every unreadable part. -/
def decodeLossyString (bytes : Bytes) : String :=
  String.ofList (decodeLossy bytes)

/-- The string that the bytes write, or nothing if a part cannot be read. -/
def decodeString? (bytes : Bytes) : Option String :=
  (decode? bytes).map String.ofList

end Utf8

/-! ### Base 64 -/

namespace Base64

/-- The characters in the order of their values. -/
def alphabet : Text :=
  "ABCDEFGHIJKLMNOPQRSTUVWXYZabcdefghijklmnopqrstuvwxyz0123456789+/".toList

/-- The character of a value below 64. -/
def digit (n : Nat) : Char :=
  alphabet.getD (n % 64) '='

/-- The characters of some bytes. -/
def encode : Bytes → Text
  | [] => []
  | [a] => [digit (a.toNat / 4), digit (a.toNat * 16), '=', '=']
  | [a, b] =>
    [digit (a.toNat / 4), digit (a.toNat * 16 + b.toNat / 16), digit (b.toNat * 4), '=']
  | a :: b :: c :: rest =>
    [digit (a.toNat / 4), digit (a.toNat * 16 + b.toNat / 16), digit (b.toNat * 4 + c.toNat / 64),
      digit c.toNat] ++ encode rest

end Base64

end RestConformance
