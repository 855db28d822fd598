import Moorings.Lease.Client
import Moorings.Session.Pipeline

/-!
# A client of the session server

A client has one connection to the server, and makes one call after another on
it. A call sends a request and takes the next response of the stream for its
answer; the bytes that are left over stay for the next call.

That is safe only as long as the stream is in step with the calls. A response
that did not come in time may still come, and would then be taken for the
answer to a later request. So after a call that timed out, or met bytes that
are not legible or not an answer to what was asked, the client is *broken*: it
sends nothing more, and every later call finds the connection gone.

`send` and `await` are the two halves of a call, before and after the time on
the wire, and `call` is both.
-/

namespace Moorings.Session

/-- Why a call has no result. -/
inductive ClientError where
  /-- The connection could not be made. -/
  | system (error : Net.SystemError)
  /-- No response came in time. -/
  | timeout (patience : Span)
  /-- What came is no answer, or the request cannot be made. -/
  | protocol (error : ProtocolError)
  /-- The connection is gone. -/
  | disconnected
  /-- The lease service did not tell where the server is. -/
  | lookup (error : Lease.ClientError)
  /-- The server refuses the session. -/
  | rejected (reason : String)
  /-- The server reports an error. -/
  | server (message : String)
  deriving DecidableEq, Repr

namespace ClientError

/-- The failure in words. -/
def message : ClientError → String
  | system error => s!"Session server I/O error: {error.message}"
  | timeout patience => s!"No response from session server within {patience.text}"
  | protocol error => s!"Invalid session server response: {error.message}"
  | disconnected => "Session server closed the connection"
  | lookup error => s!"Failed to locate session server: {error.message}"
  | rejected reason => s!"Session rejected: {reason}"
  | server text => s!"Session server error: {text}"

/-- The failure and what lies behind it, outermost first. -/
def chain : ClientError → List String
  | system error => [message (system error), error.message]
  | protocol error => message (protocol error) :: error.chain
  | lookup error => message (lookup error) :: error.chain
  | failure => [failure.message]

end ClientError

/-! ## Calls -/

/-- What a client can ask for. -/
inductive Call where
  | openSession
  | resume (id : UInt64)
  | close (id : UInt64)
  | get (name : String)
  | post (name content : String)
  deriving DecidableEq, Repr

/-- What a call that went well tells. -/
inductive Result where
  /-- The session that is now held. -/
  | session (id : UInt64)
  /-- The session that is over. -/
  | ended (id : UInt64)
  /-- The content of the document. -/
  | content (text : String)
  /-- Only that it went well. -/
  | done
  deriving DecidableEq, Repr

namespace Call

/-- The request that a call sends. -/
def request : Call → Request
  | openSession => .openSession
  | resume id => .resume id
  | close id => .close id
  | get name => .get name
  | post name content => .post name content

/-- **What a call takes for its answer**, among the responses that are neither
a rejection nor an error. A document has to be the one that was asked for; of
a session it is only asked that there is one. -/
def accept : Call → Response → Option Result
  | openSession, .accepted id => some (.session id)
  | resume _, .accepted id => some (.session id)
  | close _, .closed id => some (.ended id)
  | get name, .document returned content =>
    if returned = name then some (.content content) else none
  | post .., .success => some .done
  | _, _ => none

end Call

/-! ## The client -/

/-- **A client of the session server**, at its end of the connection. -/
structure Client where
  /-- How long it waits for a response. -/
  patience : Span
  /-- The requests that it has sent and has no answer to. -/
  pipeline : Pipeline := {}
  /-- What has arrived and has not been read. -/
  inbox : Bytes := []
  /-- The session that it holds, as far as it has been told. -/
  session : Option UInt64 := none
  /-- Whether it has given up on the connection. -/
  isBroken : Bool := false
  deriving DecidableEq, Repr

namespace Client

/-- A client, once its connection is made; `opened` tells how that went. -/
def connect (opened : Except Net.SystemError Unit) (patience : Span) :
    Except ClientError Client :=
  match opened with
  | .error error => .error (.system error)
  | .ok () => .ok { patience }

/-- The client after it has given up on the connection. -/
def giveUp (c : Client) : Client := { c with isBroken := true }

/-- **The first half of a call**: the bytes that are sent. `wire` tells whether
the connection still takes any. -/
def send (c : Client) (wire : Except Net.SystemError Unit) (request : Request) :
    Except ClientError Bytes × Client :=
  if c.isBroken then (.error .disconnected, c)
  else
    match c.pipeline.send request, wire with
    | .error error, _ => (.error (.protocol error), c.giveUp)
    | .ok _, .error error => (.error (.protocol (.transport error)), c.giveUp)
    | .ok (bytes, pipeline), .ok () => (.ok bytes, { c with pipeline })

/-- The next response, if these bytes arrive while the client waits; `isEnded`
tells whether the stream ends after them. -/
def receive (c : Client) (arriving : Bytes) (isEnded : Bool) :
    Except ClientError Response × Client :=
  let inbox := c.inbox ++ arriving
  match c.pipeline.receive isEnded inbox with
  | (.done response rest, pipeline) => (.ok response, { c with pipeline, inbox := rest })
  | (.fail error, _) => (.error (.protocol error), { c with inbox }.giveUp)
  | (.more, _) =>
    if isEnded then (.error .disconnected, { c with inbox })
    else (.error (.timeout c.patience), { c with inbox }.giveUp)

/-- What the client holds after a call that went well. A session that is over
is forgotten if it is the one that is held. -/
def remember (c : Client) : Result → Client
  | .session id => { c with session := some id }
  | .ended id => if c.session = some id then { c with session := none } else c
  | .content _ | .done => c

/-- **The second half of a call**: its result. -/
def await (c : Client) (call : Call) (arriving : Bytes) (isEnded : Bool) :
    Except ClientError Result × Client :=
  match c.receive arriving isEnded with
  | (.error error, c) => (.error error, c)
  | (.ok (.rejected reason), c) => (.error (.rejected reason), c)
  | (.ok (.error text), c) => (.error (.server text), c)
  | (.ok response, c) =>
    match call.accept response with
    | some result => (.ok result, c.remember result)
    | none => (.error (.protocol (.unexpectedResponse response.shown)), c.giveUp)

/-- What one call sends and what it comes to. -/
structure Turn where
  sent : Bytes
  result : Except ClientError Result

/-- **One call**, on a connection that takes what is sent. -/
def call (c : Client) (call : Call) (arriving : Bytes) (isEnded : Bool) : Turn × Client :=
  match c.send (.ok ()) call.request with
  | (.error error, c) => ({ sent := [], result := .error error }, c)
  | (.ok sent, c) =>
    let (result, c) := c.await call arriving isEnded
    ({ sent, result }, c)

/-- The calls one after another, each with what arrives for it and whether the
stream ends then. After the end of the stream nothing arrives any more. -/
def callAll (c : Client) (isEnded : Bool) : List (Call × Bytes × Bool) → List (Turn × Option UInt64)
  | [] => []
  | (call, arriving, ends) :: rest =>
    let arriving := if isEnded then [] else arriving
    let isEnded := isEnded || ends
    let (turn, c) := c.call call arriving isEnded
    (turn, c.session) :: callAll c isEnded rest

end Client

end Moorings.Session
