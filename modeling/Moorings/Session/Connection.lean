import Moorings.Session.Directory
import Moorings.Session.Response

/-!
# One connection to the session server

A connection holds at most one session, and works on the documents of the one
it holds. `Connection.handle` takes a request to its reply. The directory is
the same for all connections, so a session that one of them holds may be
closed by another; a connection that holds a closed session goes on holding
it, and is told at every request that it is not open.

A reply to something that is no request is the last one: the connection is
closed after it.
-/

namespace Moorings.Session

/-- What is said to one who holds a session already. -/
def sessionAlreadyOpen : String := "Session already open"

/-- What is said to one who holds none. -/
def noSessionOpen : String := "No session open"

/-- What is said to one who asks for a session that is not open. -/
def unableToResume : String := "Unable to resume session"

/-- What is said to one who sends something else than a request. -/
def invalidCommand : String := "Invalid command"

/-- A response, and whether it is the last on its connection. -/
structure Reply where
  response : Response
  isLast : Bool := false
  deriving DecidableEq, Repr

/-- The reply to something that is no request. -/
def Reply.refusal : Reply := { response := .error invalidCommand, isLast := true }

/-- **The server's side of one connection.** -/
structure Connection where
  /-- The session that it holds. -/
  held : Option UInt64 := none
  deriving DecidableEq, Repr

namespace Connection

/-- A new session, if the connection holds none. -/
def openSession (c : Connection) (d : Directory) : Reply × Connection × Directory :=
  match c.held with
  | some _ => ({ response := .error sessionAlreadyOpen }, c, d)
  | none =>
    let (id, d) := d.openSession
    ({ response := .accepted id }, { held := some id }, d)

/-- A session that is open already, if the connection holds none. -/
def resume (c : Connection) (d : Directory) (id : UInt64) : Reply × Connection :=
  match c.held with
  | some _ => ({ response := .error sessionAlreadyOpen }, c)
  | none =>
    if d.isOpen id then ({ response := .accepted id }, { held := some id })
    else ({ response := .rejected unableToResume }, c)

/-- The end of a session, whoever holds it. Only if this connection does, it
holds none afterwards. -/
def close (c : Connection) (d : Directory) (id : UInt64) : Reply × Connection × Directory :=
  match d.close id with
  | .ok d => ({ response := .closed id }, if c.held = some id then { held := none } else c, d)
  | .error error => ({ response := .error error.message }, c, d)

/-- A document of the held session. -/
def get (c : Connection) (d : Directory) (name : String) : Reply :=
  match c.held with
  | none => { response := .error noSessionOpen }
  | some id =>
    match d.get id name with
    | .ok content => { response := .document name content }
    | .error error => { response := .error error.message }

/-- A document kept in the held session. -/
def post (c : Connection) (d : Directory) (name content : String) : Reply × Directory :=
  match c.held with
  | none => ({ response := .error noSessionOpen }, d)
  | some id =>
    match d.put id name content with
    | .ok d => ({ response := .success }, d)
    | .error error => ({ response := .error error.message }, d)

/-- **The reply to a request**, with the connection and the directory after
it. -/
def handle (c : Connection) (d : Directory) : Request → Reply × Connection × Directory
  | .openSession => c.openSession d
  | .resume id => let (reply, c) := c.resume d id; (reply, c, d)
  | .close id => c.close d id
  | .get name => (c.get d name, c, d)
  | .post name content => let (reply, d) := c.post d name content; (reply, c, d)
  | .invalid _ => (.refusal, c, d)

end Connection

end Moorings.Session
