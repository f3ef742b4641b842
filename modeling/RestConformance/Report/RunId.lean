import RestConformance.Text.Numerals
import RestConformance.Time.Instant

/-!
# Run identifiers

A run is identified by 128 bits in the layout of version 7 of the universally unique identifiers:
48 bits of the time in milliseconds, the version, and random bits around the variant. So later runs
have greater identifiers.

## Main definitions

* `RunId.ofTime` – the identifier of a time and some random bits;
* `RunId.isOrdered` – a string has that layout;
* `RunStamp` – the identifier of a run, and its start.
-/

namespace RestConformance

namespace RunId

/-- The hexadecimal digits of a number, `width` of them. -/
def digits (width n : Nat) : Text :=
  (List.range width).map fun place => Hexadecimal.lowerDigit (n >>> (4 * (width - 1 - place)) % 16)

/-- The identifier of a time in milliseconds and 74 random bits. -/
def ofTime (milliseconds random : Nat) : String :=
  let time := milliseconds % 0x1000000000000
  let first := 0x7000 + random % 0x1000
  let second := 0x8000 + random / 0x1000 % 0x4000
  let third := random / 0x4000000 % 0x1000000000000
  String.ofList (Text.join ['-'] [digits 8 (time / 0x10000), digits 4 (time % 0x10000),
    digits 4 first, digits 4 second, digits 12 third])

/-- Whether a string is an identifier in the layout of version 7. -/
def isOrdered (id : String) : Bool :=
  match Text.splitAll '-' id.toList with
  | [a, b, c, d, e] =>
    [a, b, c, d, e].map List.length == [8, 4, 4, 4, 12] &&
      (a ++ b ++ c ++ d ++ e).all (fun digit => (Hexadecimal.value? digit).isSome) &&
      c.head? == some '7' && "89ab".toList.contains (d.headD ' ')
  | _ => false

end RunId

/-- What a run is known by. -/
structure RunStamp where
  runId : String
  /-- When the first unit started. -/
  startedAt : Instant
  deriving DecidableEq, Repr

end RestConformance
