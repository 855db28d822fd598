import Moorings.Session.Response

/-!
# Requests on their way

A client may send several requests before the first response arrives, and the
responses come in the order of the requests. Since a response can only be read
by one who knows what was asked, the client keeps what each request that has
been sent and not yet answered makes it expect.

A request that cannot be written is not on its way, and a response that cannot
be read answers nothing: both leave the pipeline as it is.
-/

namespace Moorings.Session

/-- **The requests that have been sent and not been answered**, as what they
make their client expect, in the order in which they were sent. -/
structure Pipeline where
  pending : List Expect := []
  deriving DecidableEq, Repr

namespace Pipeline

/-- A request sent: its bytes, and the pipeline with it at the end. -/
def send (p : Pipeline) (request : Request) : Except ProtocolError (Bytes × Pipeline) := do
  let bytes ← request.encode
  pure (bytes, { pending := p.pending ++ [request.expect] })

/-- What the next response is read as. One that nobody asked for is read as it
stands. -/
def expected (p : Pipeline) : Expect := p.pending.head?.getD .plain

/-- The scan for the next response; at the end of the stream, the last. -/
def scan (p : Pipeline) (isEnded : Bool) : Scan Response :=
  if isEnded then (Response.scan p.expected).atEnd else Response.scan p.expected

/-- **The next response read from a buffer**, and the pipeline without the
request that it answers. -/
def receive (p : Pipeline) (isEnded : Bool) (buffer : Bytes) : Reading Response × Pipeline :=
  match p.scan isEnded buffer with
  | .done response rest => (.done response rest, { pending := p.pending.tail })
  | reading => (reading, p)

end Pipeline

end Moorings.Session
