import Moorings.Session.Client
import Moorings.Session.Serving

/-!
# A session server and its clients

A `Link` is a connection with both its ends: a client, and the serving of it
on the server. What one end writes, the other reads, at once and in order.

When the server has ended its side, a client finds that out at its next call:
what it sends meets nobody, and the stream is at its end. After that the
connection takes nothing more.

A `Server` is a directory and the links to it.
-/

namespace Moorings.Session

/-- **A connection with both its ends.** -/
structure Link where
  /-- The client's end. -/
  client : Client
  /-- The server's end. -/
  serving : Serving := {}
  /-- Whether something has been sent to a server that had gone. -/
  isReset : Bool := false

namespace Link

/-- **One call of the client**, served at once. -/
def call (link : Link) (d : Directory) (call : Call) :
    Except ClientError Result × Link × Directory :=
  let wire : Except Net.SystemError Unit :=
    if link.isReset then .error .brokenPipe else .ok ()
  match link.client.send wire call.request with
  | (.error error, client) => (.error error, { link with client }, d)
  | (.ok sent, client) =>
    let isReset := link.serving.isOver
    let (arriving, serving, d) := link.serving.receive d sent
    let (result, client) := client.await call arriving serving.isOver
    (result, { client, serving, isReset }, d)

end Link

/-- **A directory and the connections to it**, each under a number. -/
structure Server where
  directory : Directory := {}
  links : List (Nat × Link) := []

namespace Server

/-- The connection with this number. -/
def link? (s : Server) (number : Nat) : Option Link :=
  (s.links.find? (·.1 = number)).map (·.2)

/-- The connection with this number gone. -/
def without (s : Server) (number : Nat) : Server :=
  { s with links := s.links.filter (·.1 ≠ number) }

/-- One call on the connection with this number, which is made first if there
is none. -/
def call (s : Server) (patience : Span) (number : Nat) (call : Call) :
    Except ClientError Result × Option UInt64 × Server :=
  let link := (s.link? number).getD { client := { patience } }
  let (result, link, directory) := link.call s.directory call
  (result, link.client.session,
    { directory, links := (number, link) :: (s.without number).links })

/-- The connection with this number ended by its client. -/
def disconnect (s : Server) (number : Nat) : Server :=
  match s.link? number with
  | none => s
  | some link =>
    let (_, _, directory) := link.serving.finish s.directory .eof
    { s.without number with directory }

/-- What clients do, one thing after another. -/
inductive Step where
  /-- A call on the connection with this number. -/
  | call (number : Nat) (call : Call)
  /-- The end of the connection with this number. -/
  | disconnect (number : Nat)

/-- What comes of a step: the result of a call, and the session that its
client holds after it. -/
abbrev StepResult := Option (Except ClientError Result × Option UInt64)

/-- One step. -/
def step (s : Server) (patience : Span) : Step → StepResult × Server
  | .call number call =>
    let (result, session, s) := s.call patience number call
    (some (result, session), s)
  | .disconnect number => (none, s.disconnect number)

/-- The steps one after another. -/
def run (s : Server) (patience : Span) : List Step → List StepResult × Server
  | [] => ([], s)
  | step :: rest =>
    let (result, s) := s.step patience step
    let (results, s) := s.run patience rest
    (result :: results, s)

end Server

end Moorings.Session
