import RestConformance.Text.Numerals
import RestConformance.Text.Bytes

/-!
# Percent encoding

Characters that may not stand for themselves in a part of an address are written as the bytes of
their UTF-8 form, each as `%` and two upper-case digits. Every part has its own set of such
characters; all of them hold the control characters and everything beyond ASCII.

Browsers send queries in the form `name=value&name=value`. In it letters, digits and `*`, `-`, `.`,
`_` stand for themselves, a space is written `+`, and every other byte is percent-encoded. In
reading, pairs are cut at `&`, a pair at its first `=`, and empty pairs are skipped.

## Main definitions

* `Percent.encode` – a text with the characters of a set encoded;
* `Percent.decode` – the bytes that an encoded text stands for;
* `Percent.path`, `Percent.query`, … – the sets of the parts of an address;
* `Form.encode`, `Form.decode` – one component of a form;
* `Form.append` – a query with one more pair at its end;
* `Form.pairs` – the pairs of a query.
-/

namespace RestConformance

namespace Percent

/-- `%` and the two digits of a byte. -/
def encodeByte (b : UInt8) : Text :=
  ['%', Hexadecimal.upperDigit (b.toNat / 16), Hexadecimal.upperDigit (b.toNat % 16)]

/-- A character with all its bytes encoded. -/
def encodeChar (c : Char) : Text :=
  (String.utf8EncodeChar c).flatMap encodeByte

/-- A text with the characters of a set encoded and the others as they are. -/
def encode (set : Char → Bool) (t : Text) : Text :=
  t.flatMap fun c => if set c then encodeChar c else [c]

/-- The byte that two hexadecimal digits write. -/
def byte? (high low : UInt8) : Option UInt8 :=
  match Hexadecimal.value? (Char.ofNat high.toNat), Hexadecimal.value? (Char.ofNat low.toNat) with
  | some a, some b => some (UInt8.ofNat (a * 16 + b))
  | _, _ => none

/-- The bytes that encoded bytes stand for. A `%` without two digits stands for itself. -/
def decodeBytes : Bytes → Bytes
  | 0x25 :: high :: low :: rest =>
    match byte? high low with
    | some b => b :: decodeBytes rest
    | none => 0x25 :: decodeBytes (high :: low :: rest)
  | b :: rest => b :: decodeBytes rest
  | [] => []

/-- The bytes that an encoded text stands for. -/
def decode (t : Text) : Bytes :=
  decodeBytes (Utf8.encode t)

/-! ### The sets of the parts of an address -/

/-- The control characters and everything beyond ASCII. -/
def control (c : Char) : Bool :=
  c.toNat < 0x20 || 0x7F ≤ c.toNat

/-- The characters encoded in a fragment. -/
def fragment (c : Char) : Bool :=
  control c || c == ' ' || c == '"' || c == '<' || c == '>' || c == '\x60'

/-- The characters encoded in a query. -/
def query (c : Char) : Bool :=
  control c || c == ' ' || c == '"' || c == '#' || c == '<' || c == '>'

/-- The characters encoded in the query of an address with a special scheme. -/
def specialQuery (c : Char) : Bool :=
  query c || c == '\x27'

/-- The characters encoded in a path. -/
def path (c : Char) : Bool :=
  fragment c || c == '#' || c == '?' || c == '\x7b' || c == '\x7d'

/-- The characters encoded in a user name and a password. -/
def userinfo (c : Char) : Bool :=
  path c || c == '/' || c == ':' || c == ';' || c == '=' || c == '@' || c == '[' || c == '\\' ||
    c == ']' || c == '^' || c == '|'

theorem encode_append (set : Char → Bool) (first second : Text) :
    encode set (first ++ second) = encode set first ++ encode set second := by
  simp [encode]

/-- A text that holds no character of the set is its own encoded form. -/
theorem encode_eq_self {set : Char → Bool} {t : Text} (h : ∀ c ∈ t, set c = false) :
    encode set t = t := by
  induction t with
  | nil => rfl
  | cons c rest ih =>
    have hc := h c (List.mem_cons_self)
    have hrest := ih fun x hx => h x (List.mem_cons_of_mem _ hx)
    simpa [encode, hc] using hrest

end Percent

/-! ### Forms -/

namespace Form

/-- Whether a byte stands for itself. -/
def isPlain (b : UInt8) : Bool :=
  let n := b.toNat
  (0x30 ≤ n && n ≤ 0x39) || (0x41 ≤ n && n ≤ 0x5A) || (0x61 ≤ n && n ≤ 0x7A) ||
    n == 0x2A || n == 0x2D || n == 0x2E || n == 0x5F

/-- The written form of one byte. -/
def encodeByte (b : UInt8) : Text :=
  if isPlain b then [Char.ofNat b.toNat]
  else if b == 0x20 then ['+']
  else Percent.encodeByte b

def encode (t : Text) : Text :=
  (Utf8.encode t).flatMap encodeByte

/-- The component that a text writes. -/
def decode (t : Text) : Text :=
  Utf8.decodeLossy (Percent.decode (t.map fun c => if c = '+' then ' ' else c))

/-- The pair that a part of a query writes. -/
def pair (part : Text) : Text × Text :=
  match Text.splitFirst '=' part with
  | some (name, value) => (decode name, decode value)
  | none => (decode part, [])

def pairs (query : Text) : List (Text × Text) :=
  ((Text.splitAll '&' query).filter (!·.isEmpty)).map pair

/-- A query with one more pair at its end. The pair is set off with `&` unless the query is
empty. -/
def append (query : Text) (name value : Text) : Text :=
  query ++ (if query.isEmpty then [] else ['&']) ++ encode name ++ '=' :: encode value

end Form

end RestConformance
