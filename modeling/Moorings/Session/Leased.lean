import Moorings.Lease.Renewal
import Moorings.Session.Server

/-!
# A session server on a leased port

A session server asks the lease service for a port, listens on it, renews the
lease while it serves, and gives the port back when it stops. It gives it back
too when it finds that it cannot listen there.

`start`, `renew` and `stop` are the three things it does with its lease, `serve` is
the time between the first and the last of them, and `run` is all of it. A lease that
is lost is not renewed any more, but the server goes on serving, and gives back its port
like any other.
-/

namespace Moorings.Session

open Net (Endpoint SystemError)

/-- Why a session server does not serve. -/
inductive ServerError where
  /-- It has not been given a port. -/
  | lease (error : Lease.ClientError)
  /-- It cannot listen on its port. -/
  | bind (endpoint : Endpoint) (error : SystemError)
  deriving DecidableEq, Repr

namespace ServerError

/-- The failure in words. -/
def message : ServerError → String
  | lease error => s!"Port lease failed: {error.message}"
  | bind endpoint error => s!"Failed to listen on {endpoint.text}: {error.message}"

/-- The failure and what lies behind it, outermost first. -/
def chain : ServerError → List String
  | lease error => message (lease error) :: error.chain
  | bind endpoint error => [message (bind endpoint error), error.message]

end ServerError

/-- **A session server on a leased port.** -/
structure Leased where
  /-- The client that leased the port. -/
  tenant : Lease.Client
  /-- The port. -/
  port : UInt16
  /-- The server. -/
  server : Server := {}

namespace Leased

/-- **A port leased and listened on.** `opened` tells whether the lease service
can be reached, and `bound` whether a port can be listened on. A port that
cannot is given back. -/
def start (settings : Settings.SessionServer) (opened : Except SystemError Unit)
    (bound : UInt16 → Except SystemError Unit) (pool : Lease.Pool) (now : Instant) :
    Except ServerError Leased × Lease.Pool :=
  match Lease.Client.connect opened settings.serviceName settings.patience with
  | .error error => (.error (.lease error), pool)
  | .ok tenant =>
    match tenant.ask pool now .requestPort with
    | (.error error, pool) => (.error (.lease error), pool)
    | (.ok reply, pool) =>
      match bound reply.port with
      | .ok () => (.ok { tenant, port := reply.port }, pool)
      | .error error =>
        let (_, pool) := tenant.ask pool now (.closePort reply.port)
        (.error (.bind (.of settings.interface reply.port) error), pool)

/-- The lease renewed once. -/
def renew (l : Leased) (pool : Lease.Pool) (now : Instant) : Lease.Pool :=
  (l.tenant.ask pool now (.keepAlive l.port)).2

/-- **The server stopped**: what is in its directory, and the pool with the
port given back. -/
def stop (l : Leased) (pool : Lease.Pool) (now : Instant) : Stats × Lease.Pool :=
  (l.server.directory.stats, (l.tenant.ask pool now (.closePort l.port)).2)

/-- What happens while a server serves. -/
inductive Deed where
  /-- It is time to renew the lease. -/
  | renewal (now : Instant)
  /-- A client does something. -/
  | step (step : Server.Step)

/-- **The server while it serves**, and the pool after it; `isLost` tells whether a
renewal has been refused before, and `patience` is that of the clients. -/
def serve (l : Leased) (patience : Span) (isLost : Bool) (pool : Lease.Pool) :
    List Deed → Leased × Lease.Pool
  | [] => (l, pool)
  | .renewal now :: deeds =>
    if isLost then l.serve patience isLost pool deeds
    else
      let (answer, _) := l.tenant.ask pool now (.keepAlive l.port)
      l.serve patience (Lease.Renewal.isLost answer) (l.renew pool now) deeds
  | .step step :: deeds =>
    let (_, server) := l.server.step patience step
    { l with server }.serve patience isLost pool deeds

/-- **A server from its start to its end**: what is in its directory then, or why it has
not served, and the pool after it. -/
def run (settings : Settings.SessionServer) (opened : Except SystemError Unit)
    (bound : UInt16 → Except SystemError Unit) (patience : Span) (pool : Lease.Pool)
    (now : Instant) (deeds : List Deed) (later : Instant) :
    Except ServerError Stats × Lease.Pool :=
  match start settings opened bound pool now with
  | (.error error, pool) => (.error error, pool)
  | (.ok leased, pool) =>
    let (leased, pool) := leased.serve patience false pool deeds
    let (stats, pool) := leased.stop pool later
    (.ok stats, pool)

end Leased

end Moorings.Session
