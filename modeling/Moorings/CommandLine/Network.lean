import Moorings.Session.Leased

/-!
# The network around a command

Who listens where, while a command runs: lease services, which may be silent,
and session servers. Nobody listens at any other endpoint, and whoever is sent
something there is refused.
-/

namespace Moorings.CommandLine

open Net (Endpoint SystemError)

/-- Somebody who is sent lease requests. -/
inductive LeasePeer where
  /-- A lease service with this pool. -/
  | service (pool : Lease.Pool)
  /-- Somebody who never answers. -/
  | silent

/-- **Who listens where.** -/
structure Network where
  /-- The endpoints to which lease requests can be sent. -/
  leases : List (Endpoint × LeasePeer) := []
  /-- The endpoints at which there is a session server. -/
  servers : List (Endpoint × Session.Directory) := []
  /-- Whether there is a way to them at all. -/
  route : Except SystemError Unit := .ok ()

namespace Network

/-- The first entry under a key replaced. -/
def replace {α β : Type} [DecidableEq α] (key : α) (value : β) : List (α × β) → List (α × β)
  | [] => []
  | (k, v) :: rest => if k = key then (key, value) :: rest else (k, v) :: replace key value rest

/-- **One call to the lease service at an endpoint.** A service that has
stopped does not listen any more. -/
def ask (n : Network) (endpoint : Endpoint) (client : Lease.Client) (call : Lease.Call) :
    Except Lease.ClientError Lease.Message × Network :=
  match n.leases.lookup endpoint with
  | none => (.error (.system .connectionRefused), n)
  | some .silent => (.error (.timeout client.patience), n)
  | some (.service pool) =>
    if pool.stopped then (.error (.system .connectionRefused), n)
    else
      let (reply, pool) := client.ask pool 0 call
      (reply, { n with leases := replace endpoint (.service pool) n.leases })

/-- A client for the session server at an endpoint, and its directory. -/
def visit (n : Network) (endpoint : Endpoint) (patience : Span) :
    Except Session.ClientError (Session.Link × Session.Directory) :=
  match n.servers.lookup endpoint with
  | none => .error (.system .connectionRefused)
  | some directory => do
    let client ← Session.Client.connect n.route patience
    pure ({ client }, directory)

/-- The directory of the session server at an endpoint replaced. -/
def setDirectory (n : Network) (endpoint : Endpoint) (d : Session.Directory) : Network :=
  { n with servers := replace endpoint d n.servers }

end Network

end Moorings.CommandLine
