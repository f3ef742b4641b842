import RestConformance.Json.Basic
import RestConformance.Text.Numerals

/-!
# Writing JSON

Two written forms of a value: the compact one, without any blanks, and the indented one, with two
spaces for each level and an item or member on each line. In strings the quote, the backslash and
the characters below U+0020 are escaped; everything else stands for itself.

## Main definitions

* `Json.compact` – the compact form;
* `Json.indented` – the indented form.
-/

namespace RestConformance.Json

/-- The written form of one character of a string. -/
def escape (c : Char) : Text :=
  if c = '"' then ['\\', '"']
  else if c = '\\' then ['\\', '\\']
  else if c = '\n' then ['\\', 'n']
  else if c = '\r' then ['\\', 'r']
  else if c = '\t' then ['\\', 't']
  else if c = '\x08' then ['\\', 'b']
  else if c = '\x0c' then ['\\', 'f']
  else if c.toNat < 0x20 then
    ['\\', 'u', '0', '0', Hexadecimal.lowerDigit (c.toNat / 16),
      Hexadecimal.lowerDigit (c.toNat % 16)]
  else [c]

/-- A string with its quotes. -/
def writeString (s : String) : Text :=
  '"' :: s.toList.flatMap escape ++ ['"']

/-- The digits of a whole number, with a minus sign below zero. -/
def writeInteger (n : Int) : Text :=
  (toString n).toList

/-- The text of a value that has no parts. -/
def writeScalar : Json → Text
  | .null => "null".toList
  | .bool true => "true".toList
  | .bool false => "false".toList
  | .integer n => writeInteger n
  | .decimal written => written
  | .string s => writeString s
  | .array _ => []
  | .object _ => []

mutual

/-- The text of a value without blanks. -/
def write : Json → Text
  | .array items => '[' :: writeItems items ++ [']']
  | .object members => '\x7b' :: writeMembers members ++ ['\x7d']
  | .null => writeScalar .null
  | .bool b => writeScalar (.bool b)
  | .integer n => writeScalar (.integer n)
  | .decimal written => writeScalar (.decimal written)
  | .string s => writeScalar (.string s)

/-- The items of an array with commas between them. -/
def writeItems : List Json → Text
  | [] => []
  | item :: rest => write item ++ writeMoreItems rest

/-- The items of an array with a comma before each. -/
def writeMoreItems : List Json → Text
  | [] => []
  | item :: rest => ',' :: write item ++ writeMoreItems rest

/-- The members of an object with commas between them. -/
def writeMembers : List (String × Json) → Text
  | [] => []
  | (name, value) :: rest => writeString name ++ ':' :: write value ++ writeMoreMembers rest

/-- The members of an object with a comma before each. -/
def writeMoreMembers : List (String × Json) → Text
  | [] => []
  | (name, value) :: rest =>
    ',' :: writeString name ++ ':' :: write value ++ writeMoreMembers rest

end

/-- A line end and the indentation of a level. -/
def newLine (level : Nat) : Text :=
  '\n' :: List.replicate (2 * level) ' '

mutual

/-- The text of a value that starts at an indentation level. -/
def writeIndented (level : Nat) : Json → Text
  | .array [] => ['[', ']']
  | .array (item :: rest) =>
    '[' :: newLine (level + 1) ++ writeIndented (level + 1) item ++
      writeIndentedItems level rest ++ newLine level ++ [']']
  | .object [] => ['\x7b', '\x7d']
  | .object ((name, value) :: rest) =>
    '\x7b' :: newLine (level + 1) ++ writeString name ++ ':' :: ' ' ::
      writeIndented (level + 1) value ++ writeIndentedMembers level rest ++ newLine level ++
      ['\x7d']
  | .null => writeScalar .null
  | .bool b => writeScalar (.bool b)
  | .integer n => writeScalar (.integer n)
  | .decimal written => writeScalar (.decimal written)
  | .string s => writeScalar (.string s)

/-- The items after the first, each on a line of its own. -/
def writeIndentedItems (level : Nat) : List Json → Text
  | [] => []
  | item :: rest =>
    ',' :: newLine (level + 1) ++ writeIndented (level + 1) item ++ writeIndentedItems level rest

/-- The members after the first, each on a line of its own. -/
def writeIndentedMembers (level : Nat) : List (String × Json) → Text
  | [] => []
  | (name, value) :: rest =>
    ',' :: newLine (level + 1) ++ writeString name ++ ':' :: ' ' ::
      writeIndented (level + 1) value ++ writeIndentedMembers level rest

end

/-- The compact form of a value. -/
def compact (value : Json) : String :=
  String.ofList (write value)

/-- The indented form of a value. -/
def indented (value : Json) : String :=
  String.ofList (writeIndented 0 value)

end RestConformance.Json
