import Moorings.Lease.Message
import Moorings.Lease.Pool

/-!
# The lease service

The service owns a pool and answers one datagram at a time. `handle` answers a
message, `answer` a datagram, and `serve` a whole sequence of datagrams.

A datagram that is no message is answered as an undefined request, and changes
nothing. Only the first `maxDatagram + 1` bytes of a datagram are received:
the one byte more than a message may have tells a datagram that is too long
from one that just fits. A `STOP` is answered like any other request, and is
the last one that is.
-/

namespace Moorings.Lease

/-- What arrives of a datagram. -/
def received (datagram : Bytes) : Bytes := datagram.take (maxDatagram + 1)

namespace Service

/-- The status of an operation on a lease that one claims to hold. -/
def statusOf : Outcome → Status
  | .ok => .success
  | .notFound => .serviceNotFound

/-- **The reply to a message**, and the pool after it. -/
def handle (pool : Pool) (now : Instant) (m : Message) : Message × Pool :=
  match m.kind with
  | .requestPort =>
    if m.name = "" then (.undefinedError, pool)
    else
      match pool.allocate m.name now with
      | (.granted port, pool) => (.response m.name port .success, pool)
      | (.allBusy, pool) => (.response m.name 0 .allPortsBusy, pool)
  | .keepAlive =>
    let (outcome, pool) := pool.renew m.port m.name now
    (.response m.name m.port (statusOf outcome), pool)
  | .closePort =>
    let (outcome, pool) := pool.release m.port m.name
    (.response m.name m.port (statusOf outcome), pool)
  | .lookupPort =>
    match pool.lookup m.name now with
    | (some port, pool) => (.response m.name port .success, pool)
    | (none, pool) => (.response m.name 0 .serviceNotFound, pool)
  | .stop => (.response "" 0 .success, pool.stop)
  | .response => (.undefinedError, pool)

/-- The replies to messages that come one after another. -/
def handleAll (pool : Pool) : List (Instant × Message) → List Message × Pool
  | [] => ([], pool)
  | (now, m) :: rest =>
    let (reply, pool) := handle pool now m
    let (replies, pool) := handleAll pool rest
    (reply :: replies, pool)

/-- The reply to a datagram, whatever is in it. -/
def answer (pool : Pool) (now : Instant) (datagram : Bytes) : Message × Pool :=
  match Message.decode (received datagram) with
  | .ok m => handle pool now m
  | .error _ => (.undefinedError, pool)

/-- **The service run on a sequence of datagrams**: the bytes of each reply,
or nothing for a datagram that finds the service stopped. -/
def serve (pool : Pool) : List (Instant × Bytes) → List (Option Bytes) × Pool
  | [] => ([], pool)
  | (now, datagram) :: rest =>
    if pool.stopped then
      let (replies, pool) := serve pool rest
      (none :: replies, pool)
    else
      let (reply, pool) := answer pool now datagram
      let (replies, pool) := serve pool rest
      (some reply.encode :: replies, pool)

end Service

end Moorings.Lease
