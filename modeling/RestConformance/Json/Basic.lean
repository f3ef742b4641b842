import RestConformance.Text.Basic

/-!
# JSON values

A JSON document as a value. Whole numbers are kept as integers; a number with a fraction or an
exponent, and the number `-0`, is kept as it was written, because no record of this library has a
field for it. Members of an object keep their order.

A record is written as an object or as an array of its fields in order. A choice with a tag is
written as an object that holds the tag as one of its members, or as an array that starts with the
tag.

## Main definitions

* `Json` – the values;
* `Json.member?` – the value of a member, the last one where a name is repeated;
* `Json.fields?` – the fields of a record, written as an object or as an array in field order;
* `Json.required?`, `Json.optional?` – one field of a record;
* `Json.tagged?` – the tag of a choice and the fields of the alternative;
* `Json.strings?` – a map from names to strings.
-/

namespace RestConformance

/-- A JSON value. -/
inductive Json where
  | null
  | bool (b : Bool)
  | integer (n : Int)
  /-- A number that is not written as a whole number. -/
  | decimal (written : Text)
  | string (s : String)
  | array (items : List Json)
  | object (members : List (String × Json))
  deriving Repr, BEq, Inhabited

namespace Json

/-- The last member of a name. -/
def lookup (name : String) : List (String × Json) → Option Json
  | [] => none
  | (key, value) :: rest =>
    match lookup name rest with
    | some found => some found
    | none => if key = name then some value else none

/-- The value of a member of an object. -/
def member? (name : String) : Json → Option Json
  | .object members => lookup name members
  | _ => none

/-- The string that a value is. -/
def string? : Json → Option String
  | .string s => some s
  | _ => none

/-- The natural number below `bound` that a value is. -/
def natural? (bound : Nat) : Json → Option Nat
  | .integer n => if 0 ≤ n ∧ n.toNat < bound then some n.toNat else none
  | _ => none

/-- The fields of a record in the order of `names`. A record is written as an object, where a
missing field is `none` and other members do not matter, or as an array that has no more items
than there are names, where the fields missing at the end are `none`. -/
def fields? (names : List String) : Json → Option (List (Option Json))
  | .object members => some (names.map fun name => lookup name members)
  | .array items =>
    if items.length ≤ names.length then
      some (items.map some ++ List.replicate (names.length - items.length) none)
    else none
  | _ => none

/-! ### Records -/

/-- Reads a field that has to be there. -/
def required? {α : Type} (read : Json → Option α) (field : Option Json) : Option α :=
  field.bind read

/-- Reads a field that may be missing or null. -/
def optional? {α : Type} (read : Json → Option α) : Option Json → Option (Option α)
  | none | some .null => some none
  | some value => (read value).map some

/-- The tag of a choice and the value that holds the fields of the alternative: the object itself,
or the array behind its tag. -/
def tagged? (name : String) : Json → Option (Json × Json)
  | .object members => (lookup name members).map fun tag => (tag, .object members)
  | .array (tag :: rest) => some (tag, .array rest)
  | _ => none

/-- The fields of an alternative in the order of `names`; all of them are required. -/
def requiredFields? (names : List String) (value : Json) : Option (List Json) :=
  (fields? names value).bind fun fields => fields.mapM id

/-- The members of an object whose values are all strings. -/
def strings? : Json → Option (List (String × String))
  | .object members => members.mapM fun (name, value) => value.string?.map (name, ·)
  | _ => none

/-- The 16-bit number that a value is. -/
def word16? (value : Json) : Option UInt16 :=
  (value.natural? UInt16.size).map UInt16.ofNat

/-- The 64-bit number that a value is. -/
def word64? (value : Json) : Option UInt64 :=
  (value.natural? UInt64.size).map UInt64.ofNat

/-- The number of items of a list in memory that a value is. -/
def count? (value : Json) : Option Nat :=
  value.natural? UInt64.size

end Json

end RestConformance
