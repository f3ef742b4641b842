import RestConformance.Url.Percent
import RestConformance.Url.Ipv4
import RestConformance.Url.Ipv6
import RestConformance.Url.Idna.Domain

/-!
# Hosts

The host of an address. With a special scheme it is an address in brackets, an address of four
numbers, or a domain name in any script with percent escapes; with any other scheme it is kept
nearly as it comes.

## Main definitions

* `Url.Error` – why a text is no address;
* `Url.Host` – the hosts;
* `Url.Host.read`, `Url.Host.readOpaque`, `Url.Host.write` – reading and writing.
-/

namespace RestConformance.Url

/-- Why a text is no address. -/
inductive Error where
  | emptyHost
  /-- The domain name has no ASCII form. -/
  | invalidDomain
  /-- The port is no number up to 65535. -/
  | invalidPort
  /-- The host ends in a number and is no address of four bytes. -/
  | invalidIpv4
  /-- The host in brackets is no address of eight pieces. -/
  | invalidIpv6
  | invalidHostCharacter
  /-- The text has no scheme and there is nothing that it could be relative to. -/
  | relativeWithoutBase
  /-- The text has no scheme and what it is relative to has no hierarchy. -/
  | relativeToOpaque
  deriving DecidableEq, Repr

def Error.message : Error → String
  | .emptyHost => "empty host"
  | .invalidDomain => "invalid international domain name"
  | .invalidPort => "invalid port number"
  | .invalidIpv4 => "invalid IPv4 address"
  | .invalidIpv6 => "invalid IPv6 address"
  | .invalidHostCharacter => "invalid domain character"
  | .relativeWithoutBase => "relative URL without a base"
  | .relativeToOpaque => "relative URL with a cannot-be-a-base base"

inductive Host where
  /-- A name in letters, digits and other ASCII characters. -/
  | name (text : Text)
  | ipv4 (address : Ipv4)
  | ipv6 (address : Ipv6)
  deriving DecidableEq, Repr

namespace Host

/-- Reads an address in brackets, given without the first one. -/
def readBracketed (t : Text) : Except Error Host :=
  match t.getLast? with
  | some ']' =>
    match Ipv6.read? t.dropLast with
    | some address => .ok (.ipv6 address)
    | none => .error .invalidIpv6
  | _ => .error .invalidIpv6

/-- Reads the ASCII form of a domain name. It is an address where its last part is a number. -/
def ofAscii (t : Text) : Except Error Host :=
  if t.isEmpty then .error .emptyHost
  else if Ipv4.endsInNumber t then
    match Ipv4.read? t with
    | some address => .ok (.ipv4 address)
    | none => .error .invalidIpv4
  else .ok (.name t)

/-- Reads the host of an address with a special scheme. -/
def read (t : Text) : Except Error Host :=
  match t with
  | '[' :: rest => readBracketed rest
  | _ =>
    match (Utf8.decode? (Percent.decode t)).bind Idna.toAscii? with
    | some ascii => ofAscii ascii
    | none => .error .invalidDomain

/-- Whether a character may not occur in a host with any other scheme. -/
def isForbidden (c : Char) : Bool :=
  c == '\x00' || c == '\t' || c == '\n' || c == '\r' || " #/:<>?@[\\]^|".toList.contains c

/-- Reads the host of an address with any other scheme. An empty text is no host. -/
def readOpaque (t : Text) : Except Error (Option Host) :=
  match t with
  | [] => .ok none
  | '[' :: rest => (readBracketed rest).map some
  | _ =>
    if t.any isForbidden then .error .invalidHostCharacter
    else .ok (some (.name (Percent.encode Percent.control t)))

def write : Host → Text
  | .name text => text
  | .ipv4 address => address.write
  | .ipv6 address => '[' :: address.write ++ [']']

end Host

end RestConformance.Url
