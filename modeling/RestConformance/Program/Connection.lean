import RestConformance.Http.Message
import Std.Async.DNS
import Std.Async.TCP
import Std.Async.Timer

/-!
# Connections

The transport of the program: each request gets a connection of its own to the server of its
address. Secure connections are not available.
-/

namespace RestConformance.Program

open Std.Async Std.Net Http

/-- The addresses of a host. -/
def resolveHost (host : Url.Host) : IO (List IPAddr) := do
  match host with
  | .name name => return (← (DNS.getAddrInfo (String.ofList name) "").block).toList
  | .ipv4 address =>
    return ((IPv4Addr.ofString (String.ofList address.write)).map IPAddr.v4).toList
  | .ipv6 address =>
    return ((IPv6Addr.ofString (String.ofList address.write)).map IPAddr.v6).toList

/-- The place of a port at an address. -/
def placeOf (address : IPAddr) (port : UInt16) : SocketAddress :=
  match address with
  | .v4 address => .v4 ⟨address, port⟩
  | .v6 address => .v6 ⟨address, port⟩

/-- Receives bytes until they make an exchange. -/
partial def receive (socket : TCP.Socket.Client) (received : IO.Ref Bytes) : Async Exchange := do
  let block ← try socket.recv? 65536 catch _ => pure none
  match block with
  | some block =>
    received.modify (· ++ block.toList)
    match Message.readExchange? .pending (← received.get) with
    | some exchange => return exchange
    | none => receive socket received
  | none => return (Message.readExchange? .closed (← received.get)).getD .dropped

/-- Sends a request to a place and receives the response. -/
def exchangeAt (place : SocketAddress) (request : WireRequest) (received : IO.Ref Bytes) :
    Async Exchange := do
  let socket ← TCP.Socket.Client.mk
  let connected ← try socket.connect place; pure none catch error => pure (some (toString error))
  match connected with
  | some reason => return .unreachable reason
  | none =>
    try
      socket.sendAll #[⟨(Message.writeRequest request).toArray⟩]
      receive socket received
    catch _ => return .dropped

/-- Gives an exchange up after some milliseconds. -/
def limited (timeoutMs : Option UInt64) (received : IO.Ref Bytes) (exchange : Async Exchange) :
    Async Exchange :=
  match timeoutMs with
  | none => exchange
  | some ms => do
    let finished : Async (Option Exchange) := some <$> exchange
    let expired : Async (Option Exchange) := do
      sleep (.ofNat ms.toNat)
      return none
    -- What was received before the time was up may already make an exchange.
    match ← Async.race finished expired with
    | some exchange => return exchange
    | none => return (Message.readExchange? .timedOut (← received.get)).getD .silent

/-- Tries the addresses of a server in turn, until one can be reached. -/
def exchangeWith (timeoutMs : Option UInt64) (request : WireRequest) (port : UInt16) :
    List IPAddr → IO Exchange
  | [] => return .unreachable "dns error: no address"
  | address :: rest => do
    let received ← IO.mkRef []
    match ← (limited timeoutMs received
        (exchangeAt (placeOf address port) request received)).block with
    | .unreachable reason =>
      if rest.isEmpty then return .unreachable reason
      else exchangeWith timeoutMs request port rest
    | exchange => return exchange

/-- The transport of the program. -/
def transport (timeoutMs : Option UInt64) : Transport IO := fun request => do
  match request.url.scheme, request.url.host? with
  | .http, some host =>
    try
      exchangeWith timeoutMs request (.ofNat (request.url.effectivePort?.getD 80))
        (← resolveHost host)
    catch error => return .unreachable ("dns error: " ++ toString error)
  | _, _ => return .unreachable "secure connections are not available"

end RestConformance.Program
