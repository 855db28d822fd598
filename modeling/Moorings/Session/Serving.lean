import Moorings.Session.Connection

/-!
# Serving a connection

`Serving` is a connection while it is served: besides what it holds, it has
the bytes that have arrived and are not yet a request, and what the peer will
still take of the responses. `receive` takes the next piece of the stream,
answers every request that is complete with it and gives the bytes that are
written; `finish` does what is to be done at the end of the stream.

The serving is over, and nothing more is read or applied, after

* a reply that is the last one, which is the answer to what is no request and
  to what is not legible;
* a response that the peer does not take as a whole. What the request did to
  the directory is done by then;
* the end of the stream. If it is a clean end and bytes are left, they are not
  legible, and are answered; if the transport failed or the connection was
  cancelled, they are not.
-/

namespace Moorings.Session

/-- How a stream comes to its end. -/
inductive Ending where
  /-- The peer has sent everything it had. -/
  | eof
  /-- The transport failed. -/
  | failure
  /-- The server stops. -/
  | cancelled
  deriving DecidableEq, Repr

/-- **A connection while it is served.** -/
structure Serving where
  /-- What the connection holds. -/
  connection : Connection := {}
  /-- What has arrived and is not a request yet. -/
  buffer : Bytes := []
  /-- How many bytes the peer will still take, if there is a limit. -/
  allowance : Option Nat := none
  /-- Whether the serving is over. -/
  isOver : Bool := false
  deriving DecidableEq, Repr

namespace Serving

/-- Bytes written to the peer: those that it takes. If it does not take all of
them, the serving is over. -/
def write (s : Serving) (bytes : Bytes) : Bytes × Serving :=
  match s.allowance with
  | none => (bytes, s)
  | some n =>
    if bytes.length ≤ n then (bytes, { s with allowance := some (n - bytes.length) })
    else (bytes.take n, { s with allowance := some 0, isOver := true })

/-- A reply written to the peer. -/
def send (s : Serving) (reply : Reply) : Bytes × Serving :=
  let (out, s) := s.write reply.response.encode
  (out, { s with isOver := s.isOver || reply.isLast })

/-- **Requests answered one after another**, for as long as the serving
lasts: the bytes written, and what has become of the serving and of the
directory. -/
def answerAll (s : Serving) (d : Directory) : List Request → Bytes × Serving × Directory
  | [] => ([], s, d)
  | request :: rest =>
    if s.isOver then ([], s, d)
    else
      let (reply, connection, d) := s.connection.handle d request
      let (out, s) := { s with connection }.send reply
      let (more, s, d) := answerAll s d rest
      (out ++ more, s, d)

/-- What has been taken from the buffer answered: its requests, and then what
was not legible, unless the transport is to blame. -/
def answer (s : Serving) (d : Directory) (batch : Batch Request) :
    Bytes × Serving × Directory :=
  let (out, s, d) := { s with buffer := batch.left }.answerAll d batch.items
  if s.isOver then (out, s, d)
  else
    match batch.error with
    | none => (out, s, d)
    | some error =>
      if error.isTransport then (out, { s with isOver := true }, d)
      else
        let (last, s) := s.send .refusal
        (out ++ last, s, d)

/-- **The next piece of the stream.** -/
def receive (s : Serving) (d : Directory) (piece : Bytes) : Bytes × Serving × Directory :=
  if s.isOver then ([], s, d) else s.answer d (Request.drain (s.buffer ++ piece))

/-- The pieces of the stream one after another. -/
def receiveAll (s : Serving) (d : Directory) : List Bytes → Bytes × Serving × Directory
  | [] => ([], s, d)
  | piece :: rest =>
    let (out, s, d) := s.receive d piece
    let (more, s, d) := receiveAll s d rest
    (out ++ more, s, d)

/-- **The end of the stream.** -/
def finish (s : Serving) (d : Directory) (ending : Ending) : Bytes × Serving × Directory :=
  if s.isOver then ([], s, d)
  else
    match ending with
    | .eof =>
      let (out, s, d) := s.answer d (Request.drainAtEnd s.buffer)
      (out, { s with isOver := true }, d)
    | .failure | .cancelled => ([], { s with isOver := true }, d)

end Serving

/-- **A whole stream served**: the bytes written, and the directory
afterwards. The peer takes `limit` bytes in all, if there is a limit. -/
def serve (limit : Option Nat) (pieces : List Bytes) (ending : Ending) (d : Directory) :
    Bytes × Directory :=
  let serving : Serving := { allowance := limit }
  let (out, serving, d) := serving.receiveAll d pieces
  let (last, _, d) := serving.finish d ending
  (out ++ last, d)

end Moorings.Session
