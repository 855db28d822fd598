import Moorings.Lease.Service

/-!
# A client of the lease service

A client asks for ports on behalf of one named service. Its requests and their
replies are datagrams, which may be lost, come late or be somebody else's, so
the client has to tell which reply is meant for it.

* Before it sends a request it throws away everything that is still waiting
  to be read.
* Then it reads one datagram after another until one decides: an ill-formed
  one, a message that is no reply, or a reply that `answers` the request.
  Other replies are skipped.
* If none decides within its patience, it gives up.

`await` is the second and third of these, on the datagrams that arrive while
the client waits. `Socket` adds the first: it keeps what has not been read.
-/

namespace Moorings.Lease

open Text (quoted)

/-- Why a call has no result. -/
inductive ClientError where
  /-- The transport failed. -/
  | system (error : Net.SystemError)
  /-- No reply came in time. -/
  | timeout (patience : Span)
  /-- What came is no reply, or the request cannot be made. -/
  | protocol (error : ProtocolError)
  /-- The reply is a refusal. -/
  | status (code : Status) (name : String)
  deriving DecidableEq, Repr

namespace ClientError

/-- The failure in words. -/
def message : ClientError → String
  | system error => s!"PRS I/O error: {error.message}"
  | timeout patience => s!"No response from PRS within {patience.text}"
  | protocol error => s!"Invalid PRS response: {error.message}"
  | status code name => s!"PRS replied {code.word} for service {quoted name}"

/-- The failure and what lies behind it, outermost first. -/
def chain : ClientError → List String
  | system error => [message (system error), error.message]
  | protocol error => message (protocol error) :: error.chain
  | failure => [failure.message]

end ClientError

/-- **A client of the lease service**, on behalf of one named service. -/
structure Client where
  /-- The name of the service. -/
  name : String
  /-- How long it waits for a reply. -/
  patience : Span
  deriving DecidableEq, Repr

/-- A client for `name`, once its socket is open; `opened` tells how that
went. The name has to fit in a message, and is looked at first. -/
def Client.connect (opened : Except Net.SystemError Unit) (name : String) (patience : Span) :
    Except ClientError Client :=
  match checkServiceName name, opened with
  | .error error, _ => .error (.protocol error)
  | .ok (), .error error => .error (.system error)
  | .ok (), .ok () => .ok { name, patience }

/-! ## Requests and their replies -/

/-- **Whether a reply can be meant for a request.** It has the same name and,
where the request is about a port, the same port. An undefined error without a
name does not say what it is the reply to, and is taken for one to whatever
has been asked. -/
def answers (request reply : Message) : Bool :=
  if reply.status = .undefinedError ∧ reply.name = "" then true
  else if reply.name ≠ request.name then false
  else
    match request.kind with
    | .keepAlive | .closePort => reply.port = request.port
    | _ => true

/-- What one datagram decides about a request, if it decides at all. -/
def verdict (request : Message) (datagram : Bytes) : Option (Except ClientError Message) :=
  match Message.decode (received datagram) with
  | .error error => some (.error (.protocol error))
  | .ok reply =>
    if reply.kind ≠ .response then
      some (.error (.protocol (.unexpectedResponse reply.kind.word)))
    else if answers request reply then some (.ok reply)
    else none

/-- **What comes of a request** if these datagrams arrive while the client
waits, and which of them it leaves unread. -/
def await (patience : Span) (request : Message) :
    List Bytes → Except ClientError Message × List Bytes
  | [] => (.error (.timeout patience), [])
  | datagram :: rest =>
    match verdict request datagram with
    | some result => (result, rest)
    | none => await patience request rest

/-- A reply, if it is not a refusal. -/
def expectSuccess (reply : Message) : Except ClientError Message :=
  if reply.status = .success then .ok reply
  else .error (.status reply.status reply.name)

/-- The reply to a call, if there is one and it is not a refusal. -/
def conclude : Except ClientError Message → Except ClientError Message
  | .ok reply => expectSuccess reply
  | .error error => .error error

/-! ## Calls -/

/-- What a client can ask for. -/
inductive Call where
  | requestPort
  | keepAlive (port : UInt16)
  | closePort (port : UInt16)
  | lookupPort
  | stop
  deriving DecidableEq, Repr

namespace Call

/-- The message that a call sends on behalf of `name`. To stop the service is
nobody's request in particular. -/
def request (name : String) : Call → Message
  | requestPort => .request .requestPort name 0
  | keepAlive port => .request .keepAlive name port
  | closePort port => .request .closePort name port
  | lookupPort => .request .lookupPort name 0
  | stop => .request .stop "" 0

/-- Whether a call asks for a port, which is then the port of its reply. -/
def asksPort : Call → Bool
  | requestPort | lookupPort => true
  | keepAlive _ | closePort _ | stop => false

end Call

/-- **A call that a service with this pool answers** at once, and the pool
after it. -/
def Client.ask (c : Client) (pool : Pool) (now : Instant) (call : Call) :
    Except ClientError Message × Pool :=
  let request := call.request c.name
  let (reply, pool) := Service.answer pool now request.encode
  (conclude (await c.patience request [reply.encode]).1, pool)

/-! ## A client at its socket -/

/-- A client together with the datagrams that wait to be read. -/
structure Socket where
  client : Client
  /-- What has arrived and has not been read. -/
  queued : List Bytes
  deriving DecidableEq, Repr

namespace Socket

/-- **One read that does not wait**: the first datagram that waits to be read, if there is
one, and the socket without it. -/
def tryReceive (s : Socket) : Option (Bytes × Socket) :=
  match s.queued with
  | [] => none
  | datagram :: rest => some (received datagram, { s with queued := rest })

/-- What has been read does not wait to be read any more. -/
theorem length_queued_of_tryReceive {s s' : Socket} {datagram : Bytes}
    (h : s.tryReceive = some (datagram, s')) : s'.queued.length < s.queued.length := by
  obtain ⟨client, queued⟩ := s
  cases queued with
  | nil => cases h
  | cons first rest =>
    cases h
    exact Nat.lt_succ_self _

/-- What waits to be read thrown away, one read after another until there is nothing to
read. -/
def discard (s : Socket) : Socket :=
  match _e : s.tryReceive with
  | none => s
  | some (_, s') => s'.discard
termination_by s.queued.length
decreasing_by exact length_queued_of_tryReceive _e

/-- **One request and its reply.** What waits to be read is thrown away before
the request is sent; then `arriving` comes while the client waits for the
reply, and `late` after it has stopped waiting. -/
def exchange (s : Socket) (request : Message) (arriving late : List Bytes) :
    Except ClientError Message × Socket :=
  let s := s.discard
  let (result, unread) := await s.client.patience request (s.queued ++ arriving)
  (result, { s with queued := unread ++ late })

/-- One call: the reply to it, if it went well. -/
def call (s : Socket) (call : Call) (arriving late : List Bytes) :
    Except ClientError Message × Socket :=
  let (reply, s) := s.exchange (call.request s.client.name) arriving late
  (conclude reply, s)

end Socket

end Moorings.Lease
