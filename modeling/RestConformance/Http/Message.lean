import RestConformance.Http.Wire
import RestConformance.Text.Basic
import RestConformance.Text.Numerals

/-!
# Messages on a connection

The bytes of version 1.1 of the transfer protocol. Each connection carries one request; the server
is asked to close it behind the response. A response may be read while it still comes in: as long
as more of it is needed, there is no exchange yet.

## Main definitions

* `Http.Message.writeRequest` – the bytes of a request;
* `Http.Message.readExchange?` – the exchange that the received bytes make.
-/

namespace RestConformance.Http.Message

/-! ### Requests -/

def lineEnd : Text :=
  ['\r', '\n']

/-- What the first line of a request asks for: path and query. -/
def target (url : Url) : Text :=
  (match url.path.write with
    | [] => ['/']
    | path => path) ++ Url.writeQuery url.query

/-- The host and the port of an address, without any user. -/
def hostAndPort (url : Url) : Text :=
  match url.authority with
  | some authority => authority.writeHost
  | none => []

/-- One line of a header. -/
def writeHeader (name : String) (value : Bytes) : Bytes :=
  Utf8.encodeString name ++ Utf8.encode [':', ' '] ++ value ++ Utf8.encode lineEnd

def writeRequest (request : WireRequest) : Bytes :=
  Utf8.encode (request.method.name.toList ++ ' ' :: target request.url ++
      " HTTP/1.1".toList ++ lineEnd) ++
    ((("host", Utf8.encode (hostAndPort request.url)) :: request.headers) ++
      [("accept", Utf8.encodeString "*/*"), ("connection", Utf8.encodeString "close")]).flatMap
        (fun header => writeHeader header.1 header.2) ++
    Utf8.encode lineEnd ++ request.body.getD []

/-! ### Responses -/

/-- What has become of a connection. -/
inductive ConnectionState where
  /-- More bytes may come. -/
  | pending
  | closed
  | timedOut
  deriving DecidableEq, Repr

/-- The first line of some bytes and what follows it. -/
def splitLine? : Bytes → Option (Bytes × Bytes)
  | [] => none
  | b :: rest =>
    if b = 0x0A then some ([], rest)
    else (splitLine? rest).map fun found => (b :: found.1, found.2)

/-- The text of a line without blanks around it. -/
def lineText (line : Bytes) : Text :=
  Text.trimBoth isBlank (Utf8.decodeLossy line)

/-- The lines up to the first empty one, and what follows that. The fuel bounds their number. -/
def splitHead? : Nat → Bytes → Option (List Text × Bytes)
  | 0, _ => none
  | fuel + 1, bytes =>
    match splitLine? bytes with
    | none => none
    | some (line, rest) =>
      if (lineText line).isEmpty then some ([], rest)
      else (splitHead? fuel rest).map fun found => (lineText line :: found.1, found.2)

/-- The head of a response. -/
structure Head where
  status : UInt16
  /-- The headers, with names in lower case. -/
  headers : List (Text × Text)

/-- The status that the first line of a response tells. -/
def readStatus? (line : Text) : Option UInt16 :=
  match (Text.splitAll ' ' line).filter (!·.isEmpty) with
  | version :: status :: _ =>
    if "HTTP/1.".toList.isPrefixOf version && status.length == 3 then
      (Decimal.number? status).map UInt16.ofNat
    else none
  | _ => none

/-- The name and the value of a header. -/
def readHeader? (line : Text) : Option (Text × Text) :=
  (Text.splitFirst ':' line).map fun found =>
    (Text.lowerAscii (Text.trimBoth isBlank found.1), Text.trimBoth isBlank found.2)

/-- The head that some lines write. -/
def readHead? : List Text → Option Head
  | [] => none
  | first :: rest => (readStatus? first).map fun status => ⟨status, rest.filterMap readHeader?⟩

/-- The value of a header. -/
def Head.value? (head : Head) (name : String) : Option Text :=
  head.headers.lookup name.toList

/-- A body of a number of bytes. -/
def readSized? (state : ConnectionState) (size : Nat) (bytes : Bytes) : Option ReceivedBody :=
  if size ≤ bytes.length then some (.complete (bytes.take size))
  else
    match state with
    | .pending => none
    | .closed => some .cutShort
    | .timedOut => some .timedOut

/-- A body that ends with the connection. -/
def readToEnd? (state : ConnectionState) (bytes : Bytes) : Option ReceivedBody :=
  match state with
  | .pending => none
  | .closed => some (.complete bytes)
  | .timedOut => some .timedOut

/-- Puts bytes in front of what the rest of a body reads as. -/
def prependChunk (chunk : Bytes) : ReceivedBody → ReceivedBody
  | .complete rest => .complete (chunk ++ rest)
  | other => other

/-- A body in chunks, each with its size before it, up to an empty one. The fuel bounds their
number. -/
def readChunks? (state : ConnectionState) : Nat → Bytes → Option ReceivedBody
  | 0, _ => some .cutShort
  | fuel + 1, bytes =>
    match splitLine? bytes with
    -- The line with the size is not complete, so more bytes are needed than there are.
    | none => readSized? state (bytes.length + 1) bytes
    | some (line, rest) =>
      let digits := (lineText line).takeWhile (· != ';')
      match digits, Hexadecimal.number? (Text.trimBoth isBlank digits) with
      -- What follows the empty chunk is not looked at: the connection is not used again.
      | _ :: _, some 0 => some (.complete [])
      | _ :: _, some size =>
        -- A line end closes each chunk.
        match readSized? state (size + 2) rest with
        | some (.complete chunk) =>
          (readChunks? state fuel (rest.drop (size + 2))).map (prependChunk (chunk.take size))
        | other => other
      | _, _ => some .cutShort

/-- The body behind a head. -/
def readBody? (state : ConnectionState) (head : Head) (bytes : Bytes) : Option ReceivedBody :=
  if head.status = 204 ∨ head.status = 304 then some (.complete [])
  else if (head.value? "transfer-encoding").any fun coding =>
      Text.contains (Text.lowerAscii coding) "chunked".toList then
    readChunks? state (bytes.length + 1) bytes
  else
    match (head.value? "content-length").map Decimal.number? with
    | some (some size) => readSized? state size bytes
    | some none => some .cutShort
    | none => readToEnd? state bytes

/-- The exchange that the received bytes make. Interim responses are passed over; the fuel bounds
their number. -/
def readExchangeFrom? (state : ConnectionState) : Nat → Bytes → Option Exchange
  | 0, _ => some .dropped
  | fuel + 1, bytes =>
    match splitHead? (bytes.length + 1) bytes with
    | none =>
      match state with
      | .pending => none
      | .closed => some .dropped
      | .timedOut => some .silent
    | some (lines, rest) =>
      match readHead? lines with
      | none => some .dropped
      | some head =>
        if head.status < 200 then readExchangeFrom? state fuel rest
        else
          (readBody? state head rest).map fun body =>
            .answered ⟨head.status, (head.value? "location").map Utf8.encode, body⟩

/-- The exchange that the received bytes make, or nothing if more of them are needed. -/
def readExchange? (state : ConnectionState) (bytes : Bytes) : Option Exchange :=
  readExchangeFrom? state (bytes.length + 1) bytes

end RestConformance.Http.Message
