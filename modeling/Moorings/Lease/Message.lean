import Moorings.ProtocolError
import Moorings.Text.Decimal

/-!
# Lease messages

The lease protocol is spoken in datagrams, and every datagram is one message
of four lines: what kind of message it is, the name of the service it is
about, a port and a status.

```text
REQUEST_PORT
printer
0
SUCCESS
```

A request has the status as a placeholder. A reply is of kind `RESPONSE`; it
repeats the name, and has 0 for a port that does not apply.

`Message.encode` writes a message and `Message.decode` reads one. Reading is
wider than writing in three ways: a line may end in a carriage return, the
line feed after the status may be missing, and the port may be any number that
`Text.Decimal` reads. What `decode` refuses, it refuses for the first fault in
this order: the size, the encoding of the text, the kind, the name, the port,
the status, and what follows the status.
-/

namespace Moorings.Lease

open Text (utf8 ofUtf8?)

/-- The most bytes a datagram has. -/
def maxDatagram : Nat := 1024

/-- The most bytes a service name has, which leaves the other three fields
room in a datagram. -/
def maxServiceName : Nat := maxDatagram - 64

/-- Whether a name can travel as one line of a datagram. -/
def checkServiceName (name : String) : Except ProtocolError Unit :=
  if name.toList.any (fun c => c = '\n' || c = '\r') then
    .error (.malformed (.lineBreakInServiceName name))
  else if maxServiceName < name.utf8ByteSize then
    .error (.tooLarge name.utf8ByteSize maxServiceName)
  else .ok ()

/-! ## Kinds and statuses -/

/-- What a message asks for, or that it is a reply. -/
inductive Kind where
  /-- Lease me a port. -/
  | requestPort
  /-- I still use this port. -/
  | keepAlive
  /-- I no longer use this port. -/
  | closePort
  /-- Which port does this service have? -/
  | lookupPort
  /-- End the lease service. -/
  | stop
  /-- The reply to any of these. -/
  | response
  deriving DecidableEq, Repr

namespace Kind

/-- Every kind. -/
def all : List Kind := [requestPort, keepAlive, closePort, lookupPort, stop, response]

/-- The word for a kind. -/
def word : Kind → String
  | requestPort => "REQUEST_PORT"
  | keepAlive => "KEEP_ALIVE"
  | closePort => "CLOSE_PORT"
  | lookupPort => "LOOKUP_PORT"
  | stop => "STOP"
  | response => "RESPONSE"

/-- The kind with this word. -/
def ofWord? (text : String) : Option Kind := all.find? (·.word = text)

/-- The kind with this word, or the cause that there is none. -/
def read (text : String) : Except ProtocolError Kind :=
  match ofWord? text with
  | some kind => .ok kind
  | none => .error (.unknownMessageType text)

@[simp] theorem ofWord?_word (kind : Kind) : ofWord? kind.word = some kind := by
  cases kind <;> decide

end Kind

/-- How a request went. -/
inductive Status where
  | success
  /-- No port is free. -/
  | allPortsBusy
  /-- The service does not hold the port, or holds none. -/
  | serviceNotFound
  /-- The request makes no sense. -/
  | undefinedError
  deriving DecidableEq, Repr

namespace Status

/-- Every status. -/
def all : List Status := [success, allPortsBusy, serviceNotFound, undefinedError]

/-- The word for a status. -/
def word : Status → String
  | success => "SUCCESS"
  | allPortsBusy => "ALL_PORTS_BUSY"
  | serviceNotFound => "SERVICE_NOT_FOUND"
  | undefinedError => "UNDEFINED_ERROR"

/-- The status with this word. -/
def ofWord? (text : String) : Option Status := all.find? (·.word = text)

/-- The status with this word, or the cause that there is none. -/
def read (text : String) : Except ProtocolError Status :=
  match ofWord? text with
  | some status => .ok status
  | none => .error (.unknownStatus text)

@[simp] theorem ofWord?_word (status : Status) : ofWord? status.word = some status := by
  cases status <;> decide

end Status

/-! ## Messages -/

/-- **A message of the lease protocol.** -/
structure Message where
  /-- What it asks for. -/
  kind : Kind
  /-- The name of the service it is about. -/
  name : String
  /-- The port it is about, or 0. -/
  port : UInt16
  /-- How the request went; a placeholder in a request. -/
  status : Status
  deriving DecidableEq, Repr

namespace Message

/-- A request. -/
def request (kind : Kind) (name : String) (port : UInt16) : Message :=
  { kind, name, port, status := .success }

/-- A reply. -/
def response (name : String) (port : UInt16) (status : Status) : Message :=
  { kind := .response, name, port, status }

/-- The reply to a datagram that is no request. -/
def undefinedError : Message := response "" 0 .undefinedError

/-- The text of a message. -/
def text (m : Message) : String :=
  s!"{m.kind.word}\n{m.name}\n{m.port.toNat}\n{m.status.word}\n"

/-- The bytes of a message. -/
def encode (m : Message) : Bytes := utf8 m.text

/-! ## Reading a datagram -/

/-- The characters of a line without the carriage return it may end in. -/
def withoutReturn (line : List Char) : List Char :=
  if line.getLast? = some '\r' then line.dropLast else line

/-- The lines of a text. What stands after the last line feed is a line too,
if only an empty one. -/
def lines (text : String) : List String :=
  (text.toList.splitOn '\n').map fun line => String.ofList (withoutReturn line)

/-- A field that must be there and must not be empty. -/
def required (field : Field) : Option String → Except ProtocolError String
  | some text => if text = "" then .error (.missingField field) else .ok text
  | none => .error (.missingField field)

/-- The message that these lines make. -/
def ofLines (lines : List String) : Except ProtocolError Message := do
  let kind ← Kind.read (← required .kind lines[0]?)
  let some name := lines[1]? | throw (.missingField .serviceName)
  let some portText := lines[2]? | throw (.missingField .port)
  let some port := Text.Decimal.readUInt16? portText
    | throw (.invalidNumber .port portText)
  let status ← Status.read (← required .status lines[3]?)
  if (lines.drop 4).any (· ≠ "") then throw (.malformed .extraFields)
  pure { kind, name, port, status }

/-- **The message that a datagram carries.** -/
def decode (datagram : Bytes) : Except ProtocolError Message :=
  if maxDatagram < datagram.length then
    .error (.tooLarge datagram.length maxDatagram)
  else
    match ofUtf8? datagram with
    | some text => ofLines (lines text)
    | none => .error .invalidUtf8

end Message

end Moorings.Lease
