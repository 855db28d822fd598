import Moorings.Lease.Client

/-!
# Keeping a lease

Whoever holds a port renews the lease at every interval. A renewal that gets
no usable answer is simply tried again at the next interval; only a refusal
ends the renewing, because then the port may already be somebody else's.

`run` has the renewals with nothing but the answers to them. `keep` is the
whole task: it works at a socket, where more may arrive than the answers, and
it may be told to stop. It listens for the word to stop only while an interval
runs; a word that comes while it waits for an answer cuts the next one short.
-/

namespace Moorings.Lease.Renewal

/-- Whether the answer to a renewal says that the lease is lost. -/
def isLost : Except ClientError Message → Bool
  | .error (.status ..) => true
  | _ => false

/-- What comes of one renewal, if `answer` is the one datagram that arrives
for it. -/
def once (client : Client) (port : UInt16) (answer : Option Bytes) :
    Except ClientError Message :=
  let request := (Call.keepAlive port).request client.name
  conclude (await client.patience request answer.toList).1

/-- What has been sent, and whether the lease was reported lost. -/
structure Log where
  sent : List Message
  isLost : Bool
  deriving DecidableEq, Repr

/-- **The renewals of a lease**, one for each of the answers, until one of
them reports it lost. -/
def run (client : Client) (port : UInt16) : List (Option Bytes) → Log
  | [] => { sent := [], isLost := false }
  | answer :: rest =>
    let request := (Call.keepAlive port).request client.name
    if isLost (once client port answer) then { sent := [request], isLost := true }
    else
      let log := run client port rest
      { log with sent := request :: log.sent }

/-! ## The task that renews -/

/-- What becomes of an interval. -/
inductive Interval where
  /-- It is cut short by the word to stop. -/
  | cutShort
  /-- It passes, and the lease is renewed: the datagram that arrives for the
  renewal, if one does, and what else arrives before the next one. -/
  | passed (answer : Option Bytes) (late : List Bytes)
  deriving DecidableEq, Repr

/-- Why a lease is not renewed any more. -/
inductive Ending where
  /-- It was reported lost. -/
  | lost
  /-- The word to stop has come. -/
  | stopped
  deriving DecidableEq, Repr

/-- What has been sent, and how the renewing has ended, if it has. -/
structure Course where
  sent : List Message
  ending : Option Ending
  deriving DecidableEq, Repr

/-- **A lease renewed at every interval**, until it is lost or the word to stop
comes. -/
def keep (s : Socket) (port : UInt16) : List Interval → Course
  | [] => { sent := [], ending := none }
  | .cutShort :: _ => { sent := [], ending := some .stopped }
  | .passed answer late :: rest =>
    let request := (Call.keepAlive port).request s.client.name
    let (result, s) := s.call (.keepAlive port) answer.toList late
    if isLost result then { sent := [request], ending := some .lost }
    else
      let course := keep s port rest
      { course with sent := request :: course.sent }

end Moorings.Lease.Renewal
