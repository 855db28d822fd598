import Moorings.Proofs.Lease.Delivery

/-!
# Datagrams that are left over

A client does not read all that it is sent. What follows the datagram that decides a
request is left unread, and so is whatever comes when the client has stopped waiting. It
stays in the queue of the socket, and may be anything: ill-formed, or the very reply that
the next request would get.

None of it makes any difference (`Socket.run_eq_alone`). Before a client sends a request it
reads one datagram after another until there is none, and nothing is left of them then
(`Socket.discard_eq`). So whatever it has done before, each thing that it does comes out as
if it were the first and only one. And of what arrives while it waits, a reply to somebody
else (`isForeign`) makes no difference either, as many as there may be.
-/

namespace Moorings.Lease

open Service (received_of_length_le)
open Text (utf8)

/-! ## Replies to somebody else -/

/-- **A well-formed reply that does not answer the request.** -/
def isForeign (request : Message) (datagram : Bytes) : Bool :=
  match Message.decode datagram with
  | .ok reply => reply.kind = .response && !answers request reply
  | .error _ => false

/-- A datagram that is too long is no message. -/
theorem Message.length_le_of_decode {datagram : Bytes} {m : Message}
    (h : decode datagram = .ok m) : datagram.length ≤ maxDatagram := by
  by_contra hlong
  rw [decode, if_pos (Nat.not_le.mp hlong)] at h
  cases h

/-- **A reply to somebody else decides nothing.** -/
theorem verdict_of_isForeign {request : Message} {datagram : Bytes}
    (h : isForeign request datagram = true) : verdict request datagram = none := by
  unfold isForeign at h
  split at h
  · rename_i reply hdecode
    obtain ⟨hkind, hanswers⟩ := Bool.and_eq_true_iff.mp h
    have hreply : reply.kind = .response := of_decide_eq_true hkind
    rw [verdict, received_of_length_le (Message.length_le_of_decode hdecode), hdecode]
    dsimp only
    rw [if_neg (not_not.mpr hreply), if_neg (by rwa [Bool.not_eq_true, ← Bool.not_eq_true'])]
  · cases h

/-- What is left of some datagrams without the replies to somebody else. -/
def withoutForeign (request : Message) (datagrams : List Bytes) : List Bytes :=
  datagrams.filter fun datagram => !isForeign request datagram

/-- So what comes of a request does not depend on such replies. -/
theorem await_withoutForeign (patience : Span) (request : Message) (datagrams : List Bytes) :
    (await patience request (withoutForeign request datagrams)).1
      = (await patience request datagrams).1 := by
  induction datagrams with
  | nil => rfl
  | cons datagram rest ih =>
    rw [withoutForeign, List.filter_cons]
    cases hforeign : isForeign request datagram with
    | true =>
      rw [if_neg (by decide), await, verdict_of_isForeign hforeign]
      exact ih
    | false =>
      rw [if_pos (by decide), await, await]
      cases verdict request datagram with
      | some result => rfl
      | none => exact ih

/-! ## One thing after another at a socket -/

namespace Socket

/-- What a client can do at its socket: make a call, or exchange a message of its own. -/
inductive Task where
  | call (call : Call)
  | exchange (request : Message)
  deriving DecidableEq, Repr

/-- The message that is sent. -/
def Task.request (name : String) : Task → Message
  | .call asked => asked.request name
  | .exchange message => message

/-- What is made of the reply. A refusal of the service is a failure of a call, and
otherwise a reply like any other. -/
def Task.conclude : Task → Except ClientError Message → Except ClientError Message
  | .call _ => Lease.conclude
  | .exchange _ => id

/-- **Something done at the socket**: what arrives while the client waits, and what arrives
then until it does something else. -/
structure Visit where
  task : Task
  arriving : List Bytes
  late : List Bytes := []

/-- What has been sent for it and what has come of it. -/
structure Turn where
  sent : Bytes
  result : Except ClientError Message
  deriving DecidableEq

/-- **One thing done at the socket.** -/
def visit (s : Socket) (visit : Visit) : Turn × Socket :=
  let (result, after) := match visit.task with
    | .call call => s.call call visit.arriving visit.late
    | .exchange request => s.exchange request visit.arriving visit.late
  ({ sent := (visit.task.request s.client.name).encode, result }, after)

/-- One thing after another. -/
def run (s : Socket) : List Visit → List Turn × Socket
  | [] => ([], s)
  | visit :: rest =>
    let (turn, s) := s.visit visit
    let (turns, s) := run s rest
    (turn :: turns, s)

/-- **The same done alone**, at a new socket of the same client, with no more than what
arrives while it waits. -/
def alone (c : Client) (task : Task) (arriving : List Bytes) : Turn :=
  (({ client := c, queued := [] } : Socket).visit { task, arriving }).1

variable {s : Socket}

/-- What comes of it depends on what arrives while the client waits, and on nothing else:
all that is left over has been thrown away before. -/
theorem visit_eq (s : Socket) (v : Visit) :
    let request := v.task.request s.client.name
    let waited := await s.client.patience request v.arriving
    s.visit v
      = ({ sent := request.encode, result := v.task.conclude waited.1 },
        { s with queued := waited.2 ++ v.late }) := by
  obtain ⟨task, arriving, late⟩ := v
  unfold visit
  cases task with
  | call call =>
    dsimp only
    rw [call_eq]
    rfl
  | exchange request =>
    dsimp only
    rw [exchange_eq]
    rfl

/-- **Whatever is left over makes no difference**, to whatever a client does at its socket
one thing after another: what it sends each time and what comes of that is as if it had
done nothing before, and had got nothing but what arrives while it waits. Of this, replies
to somebody else make no difference either. -/
theorem run_eq_alone (s : Socket) (visits : List Visit) :
    (s.run visits).1 = visits.map (fun visit => alone s.client visit.task visit.arriving)
      ∧ ∀ (task : Task) (arriving noisy : List Bytes),
        withoutForeign (task.request s.client.name) noisy
            = withoutForeign (task.request s.client.name) arriving →
          alone s.client task noisy = alone s.client task arriving := by
  refine ⟨?_, fun task arriving noisy h => ?_⟩
  · induction visits generalizing s with
    | nil => rfl
    | cons visit rest ih =>
      have hrest := ih (s.visit visit).2
      rw [visit_eq] at hrest
      rw [run, List.map_cons, alone, visit_eq, visit_eq]
      dsimp only
      rw [hrest]
  · rw [alone, alone, visit_eq, visit_eq]
    dsimp only
    rw [← await_withoutForeign, h, await_withoutForeign]

/-- A renewal whose reply comes late, and a release that would take it for its own. The
reply that comes while the release waits is about another port, so it has none. -/
theorem run_eq_alone_after_late :
    let s : Socket := { client := { name := "X", patience := ⟨0⟩ }, queued := [utf8 "?"] }
    let late := utf8 "RESPONSE\nX\n1\nSUCCESS\n"
    let other := utf8 "RESPONSE\nX\n2\nSUCCESS\n"
    (s.run
        [{ task := .call (.keepAlive 1), arriving := [], late := [late] },
          { task := .call (.closePort 1), arriving := [other] }]).1
      = [alone s.client (.call (.keepAlive 1)) [], alone s.client (.call (.closePort 1)) [other]]
      ∧ alone s.client (.call (.closePort 1)) [other] = alone s.client (.call (.closePort 1)) []
      ∧ (alone s.client (.call (.closePort 1)) []).result = .error (.timeout ⟨0⟩) := by
  intro s late other
  have hother : withoutForeign (Task.request "X" (.call (.closePort 1))) [other]
      = withoutForeign (Task.request "X" (.call (.closePort 1))) [] := by
    decide +kernel
  refine ⟨(run_eq_alone s _).1, (run_eq_alone s []).2 (.call (.closePort 1)) [] [other] hother, ?_⟩
  rw [alone, visit_eq]
  rfl

end Socket

end Moorings.Lease
