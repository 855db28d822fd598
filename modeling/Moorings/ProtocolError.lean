import Moorings.Net.SystemError
import Moorings.Text.Quoted

/-!
# What can be wrong with a message

`ProtocolError` is the cause for which the bytes of a peer are refused, or for
which something cannot be put into bytes at all. Both protocols share it: the
lease protocol, whose messages are datagrams of four lines, and the session
protocol, whose messages follow each other in a stream.

A cause carries what its text shows and nothing else. `message` is the only
place that words it.
-/

namespace Moorings

open Text (quoted)

/-- The part of a message that a cause speaks of. -/
inductive Field where
  | kind
  | serviceName
  | port
  | status
  | sessionId
  | contentLength
  deriving DecidableEq, Repr

/-- What a field is called. -/
def Field.label : Field → String
  | kind => "type"
  | serviceName => "service name"
  | port => "port"
  | status => "status"
  | sessionId => "session id"
  | contentLength => "content length"

/-- What makes a message ill-formed although every field is legible. -/
inductive Flaw where
  /-- A service name would take more than one line. -/
  | lineBreakInServiceName (name : String)
  /-- A document name would take more than one line. -/
  | newlineInDocumentName (name : String)
  /-- Something follows the last field. -/
  | extraFields
  deriving DecidableEq, Repr

/-- A flaw in words. -/
def Flaw.message : Flaw → String
  | lineBreakInServiceName name => s!"service name {quoted name} contains a line break"
  | newlineInDocumentName name => s!"document name {quoted name} contains a newline"
  | extraFields => "extra fields after status"

/-- **Why a message cannot be read, or cannot be written.** -/
inductive ProtocolError where
  /-- The first field names no kind of message. -/
  | unknownMessageType (text : String)
  /-- The last field names no status. -/
  | unknownStatus (text : String)
  /-- A field is not there. -/
  | missingField (field : Field)
  /-- A field that holds a number holds none, or one that is too large. -/
  | invalidNumber (field : Field) (text : String)
  /-- The fields do not make a message. -/
  | malformed (flaw : Flaw)
  /-- The bytes are no text. -/
  | invalidUtf8
  /-- There are more bytes than a message may have. -/
  | tooLarge (size max : Nat)
  /-- A line is longer than any may be. -/
  | lineTooLong (max : Nat)
  /-- The stream ended within a message. -/
  | trailingBytes (count : Nat)
  /-- A message is legible and is not an answer that can be given here. -/
  | unexpectedResponse (shown : String)
  /-- The bytes did not arrive at all. -/
  | transport (error : Net.SystemError)
  deriving DecidableEq, Repr

namespace ProtocolError

/-- A cause in words. -/
def message : ProtocolError → String
  | unknownMessageType text => s!"Unknown message type: {text}"
  | unknownStatus text => s!"Unknown status: {text}"
  | missingField field => s!"Missing field: {field.label}"
  | invalidNumber field text => s!"Invalid number in {field.label}: {quoted text}"
  | malformed flaw => s!"Malformed message: {flaw.message}"
  | invalidUtf8 => "Message is not valid UTF-8"
  | tooLarge size max => s!"Message too large: {size} bytes exceeds maximum {max} bytes"
  | lineTooLong max => s!"Line exceeds maximum length of {max} bytes"
  | trailingBytes count => s!"Connection closed with {count} unprocessed bytes"
  | unexpectedResponse shown => s!"Unexpected response: {shown}"
  | transport error => s!"I/O error: {error.message}"

/-- Whether the transport failed, and not the bytes it carried. -/
def isTransport : ProtocolError → Bool
  | transport _ => true
  | _ => false

/-- A cause and what lies behind it, outermost first. -/
def chain : ProtocolError → List String
  | transport error => [message (transport error), error.message]
  | cause => [cause.message]

end ProtocolError

end Moorings
