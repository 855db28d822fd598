import Moorings.Lease.Client
import Moorings.Proofs.Lease.Replies

/-!
# A request that is delivered

If nothing is lost, a call is an operation on the pool of the service. `Call.operate` is
this operation, said without any messages: what it does to the pool, and the port that
comes of it or the status that says why none does. Between the operation and the caller
stand a request and a reply, each written by one side and read by the other, and the
question whether the reply answers the request. `Socket.call_of_delivered` says that all
of this is transparent: each side reads what the other has written, the reply is taken
for the answer, and the caller is told what came of the operation.

A name that a client may have is enough for it. So a client is never kept waiting for a
reply that it has got, and has thrown away as somebody else's.
-/

namespace Moorings.Lease

open Service (Gives received_of_length_le)

/-! ## Operations -/

namespace Call

/-- **What a call asks of the pool**: the port that comes of it, or the status that says
why none does, and the pool after it. -/
def operate (pool : Pool) (name : String) (now : Instant) : Call → Except Status UInt16 × Pool
  | requestPort =>
    if name = "" then (.error .undefinedError, pool)
    else
      match pool.allocate name now with
      | (.granted port, pool) => (.ok port, pool)
      | (.allBusy, pool) => (.error .allPortsBusy, pool)
  | keepAlive port =>
    match pool.renew port name now with
    | (.ok, pool) => (.ok port, pool)
    | (.notFound, pool) => (.error .serviceNotFound, pool)
  | closePort port =>
    match pool.release port name with
    | (.ok, pool) => (.ok port, pool)
    | (.notFound, pool) => (.error .serviceNotFound, pool)
  | lookupPort =>
    match pool.lookup name now with
    | (some port, pool) => (.ok port, pool)
    | (none, pool) => (.error .serviceNotFound, pool)
  | stop => (.ok 0, pool.stop)

/-- What the caller is told of it, under the name that the request has. -/
def told (name : String) (call : Call) : Except Status UInt16 → Except ClientError Message
  | .ok port => .ok (.response (call.request name).name port .success)
  | .error status => .error (.status status (call.request name).name)

/-- The request of a client has the name of the client, or none. -/
theorem check_request {name : String} (h : checkServiceName name = .ok ()) (call : Call) :
    checkServiceName (call.request name).name = .ok () := by
  cases call with
  | stop => rfl
  | requestPort => exact h
  | keepAlive port => exact h
  | closePort port => exact h
  | lookupPort => exact h

/-- A request to stop the service is made in nobody's name. -/
theorem name_request_of_stop {name : String} {call : Call}
    (h : (call.request name).kind = .stop) : (call.request name).name = "" := by
  cases call with
  | stop => rfl
  | _ => cases h

/-- **The reply to a call tells what came of the operation**, and the pool is what the
operation has left. -/
theorem handle_request (pool : Pool) (name : String) (now : Instant) (call : Call) :
    Prod.map expectSuccess id (Service.handle pool now (call.request name))
      = Prod.map (call.told name) id (call.operate pool name now) := by
  cases call with
  | requestPort =>
    by_cases hname : name = ""
    · rw [hname]
      rfl
    · have hhandle : Service.handle pool now (requestPort.request name)
          = match pool.allocate name now with
            | (.granted port, pool) => (.response name port .success, pool)
            | (.allBusy, pool) => (.response name 0 .allPortsBusy, pool) := if_neg hname
      rw [hhandle, operate, if_neg hname]
      rcases pool.allocate name now with ⟨port | _, pool'⟩ <;> rfl
  | keepAlive port =>
    dsimp only [Service.handle, operate, request, Message.request]
    rcases pool.renew port name now with ⟨_ | _, pool'⟩ <;> rfl
  | closePort port =>
    dsimp only [Service.handle, operate, request, Message.request]
    rcases pool.release port name with ⟨_ | _, pool'⟩ <;> rfl
  | lookupPort =>
    dsimp only [Service.handle, operate, request, Message.request]
    rcases pool.lookup name now with ⟨_ | port, pool'⟩ <;> rfl
  | stop => rfl

/-- A request makes no sense exactly if it asks for a port in nobody's name. -/
theorem operate_eq_undefinedError_iff (pool : Pool) (name : String) (now : Instant)
    (call : Call) :
    (call.operate pool name now).1 = .error .undefinedError ↔ call = .requestPort ∧ name = "" := by
  unfold operate
  cases call with
  | requestPort =>
    dsimp only
    by_cases hname : name = ""
    · rw [if_pos hname]
      exact iff_of_true rfl ⟨rfl, hname⟩
    · rw [if_neg hname]
      rcases pool.allocate name now with ⟨port | _, pool'⟩ <;>
        exact iff_of_false nofun fun h => hname h.2
  | keepAlive port =>
    dsimp only
    rcases pool.renew port name now with ⟨_ | _, pool'⟩ <;>
      exact iff_of_false nofun fun h => nomatch h.1
  | closePort port =>
    dsimp only
    rcases pool.release port name with ⟨_ | _, pool'⟩ <;>
      exact iff_of_false nofun fun h => nomatch h.1
  | lookupPort =>
    dsimp only
    rcases pool.lookup name now with ⟨_ | port, pool'⟩ <;>
      exact iff_of_false nofun fun h => nomatch h.1
  | stop => exact iff_of_false nofun fun h => nomatch h.1

end Call

/-! ## Datagrams that arrive as they were sent -/

/-- **A message under a name that a client may have is read as it was sent.** -/
theorem Message.decode_received_encode {m : Message} (h : checkServiceName m.name = .ok ()) :
    decode (received m.encode) = .ok m := by
  rw [received_of_length_le (length_encode_le h)]
  exact decode_encode h

/-- So the service does what it says. -/
theorem Service.answer_encode {m : Message} (h : checkServiceName m.name = .ok ()) (pool : Pool)
    (now : Instant) : answer pool now m.encode = handle pool now m := by
  rw [answer, Message.decode_received_encode h]

/-- What is said in reply to such a message. -/
theorem Service.gives_answer_encode {m : Message} (h : checkServiceName m.name = .ok ())
    (pool : Pool) (now : Instant) : Gives m (answer pool now m.encode).1 := by
  rw [answer_encode h]
  exact gives_handle pool now m

/-! ## Replies and the requests that they answer -/

/-- **What a reply has to be to answer a request.** -/
theorem answers_eq_true_iff {request reply : Message} :
    answers request reply = true
      ↔ reply.status = .undefinedError ∧ reply.name = ""
        ∨ reply.name = request.name
          ∧ (request.kind = .keepAlive ∨ request.kind = .closePort →
            reply.port = request.port) := by
  unfold answers
  split
  · rename_i hundefined
    exact iff_of_true rfl (.inl hundefined)
  · rename_i hundefined
    rw [or_iff_right hundefined]
    split
    · rename_i hname
      exact iff_of_false nofun fun h => hname h.1
    · rename_i hname
      rw [and_iff_right (not_not.mp hname)]
      cases request.kind <;> simp

/-- A reply has the name of its request, unless it says that the request makes no sense.
Only a request to stop has no name in its reply, and a client makes it without one. -/
theorem Service.Gives.undefined_or_name_eq {m reply : Message} (h : Gives m reply)
    (hstop : m.kind = .stop → m.name = "") :
    reply = .undefinedError ∧ (m.kind = .response ∨ m.kind = .requestPort ∧ m.name = "")
      ∨ reply.name = m.name ∧ reply.status ≠ .undefinedError := by
  cases h with
  | undefined h => exact .inl ⟨rfl, h⟩
  | stopping h => exact .inr ⟨(hstop h).symm, nofun⟩
  | granted => exact .inr ⟨rfl, nofun⟩
  | allBusy => exact .inr ⟨rfl, nofun⟩
  | held h outcome => exact .inr ⟨rfl, by cases outcome <;> nofun⟩
  | found => exact .inr ⟨rfl, nofun⟩
  | missing => exact .inr ⟨rfl, nofun⟩

/-- A reply to a renewal or a release has the port of its request. -/
theorem Service.Gives.port_eq {m reply : Message} (h : Gives m reply)
    (hkind : m.kind = .keepAlive ∨ m.kind = .closePort) : reply.port = m.port := by
  have hother : ∀ {kind}, m.kind = kind → kind = .keepAlive ∨ kind = .closePort :=
    fun h => h ▸ hkind
  cases h with
  | undefined h =>
    obtain h | ⟨h, -⟩ := h
    · exact absurd (hother h) (by decide)
    · exact absurd (hother h) (by decide)
  | stopping h => exact absurd (hother h) (by decide)
  | granted h => exact absurd (hother h) (by decide)
  | allBusy h => exact absurd (hother h) (by decide)
  | held => rfl
  | found h => exact absurd (hother h) (by decide)
  | missing h => exact absurd (hother h) (by decide)

/-- **Whatever is said in reply to a request answers it.** -/
theorem Service.Gives.answers_eq {request reply : Message} (h : Gives request reply)
    (hstop : request.kind = .stop → request.name = "") : answers request reply = true := by
  rw [answers_eq_true_iff]
  obtain ⟨rfl, -⟩ | ⟨hname, -⟩ := h.undefined_or_name_eq hstop
  · exact .inl ⟨rfl, rfl⟩
  · exact .inr ⟨hname, h.port_eq⟩

/-- A reply is a response. -/
theorem Service.Gives.kind_eq {m reply : Message} (h : Gives m reply) :
    reply.kind = .response := by
  cases h <;> rfl

/-- **A name that may travel also travels back.** -/
theorem Service.Gives.check_name {m reply : Message} (h : Gives m reply)
    (hname : checkServiceName m.name = .ok ()) : checkServiceName reply.name = .ok () := by
  obtain hreply | hreply := h.name_eq
  · rw [hreply]
    rfl
  · rw [hreply, hname]

/-! ## Waiting -/

/-- **What comes of a request is what the first datagram says that says anything.** -/
theorem await_fst (patience : Span) (request : Message) (datagrams : List Bytes) :
    (await patience request datagrams).1
      = (datagrams.findSome? (verdict request)).getD (.error (.timeout patience)) := by
  induction datagrams with
  | nil => rfl
  | cons datagram rest ih =>
    rw [await, List.findSome?_cons]
    cases verdict request datagram with
    | some result => rfl
    | none => exact ih

/-- A datagram is a reply that answers the request if it decides on a reply. -/
theorem verdict_eq_ok_iff {request reply : Message} {datagram : Bytes} :
    verdict request datagram = some (.ok reply)
      ↔ Message.decode (received datagram) = .ok reply ∧ reply.kind = .response
        ∧ answers request reply = true := by
  unfold verdict
  cases hdecode : Message.decode (received datagram) with
  | error error => exact iff_of_false nofun fun h => nomatch h.1
  | ok m =>
    dsimp only
    split
    · rename_i hkind
      refine iff_of_false nofun fun ⟨hm, hreply, _⟩ => ?_
      cases hm
      exact hkind hreply
    · rename_i hkind
      split
      · rename_i hanswers
        rw [Option.some.injEq, Except.ok.injEq, Except.ok.injEq]
        refine ⟨fun h => ?_, And.left⟩
        subst h
        exact ⟨rfl, not_not.mp hkind, hanswers⟩
      · rename_i hanswers
        refine iff_of_false nofun fun ⟨hm, _, hreply⟩ => ?_
        cases hm
        exact hanswers hreply

theorem expectSuccess_ne_timeout (reply : Message) (patience : Span) :
    expectSuccess reply ≠ .error (.timeout patience) := by
  unfold expectSuccess
  split
  · exact nofun
  · exact nofun

/-- No datagram says that there was none. -/
theorem verdict_ne_timeout {request : Message} {datagram : Bytes}
    {result : Except ClientError Message} (h : verdict request datagram = some result)
    (patience : Span) : conclude result ≠ .error (.timeout patience) := by
  unfold verdict at h
  split at h
  · cases h
    exact nofun
  · split at h
    · cases h
      exact nofun
    · split at h
      · cases h
        exact expectSuccess_ne_timeout _ patience
      · cases h

/-! ## What is left over -/

namespace Socket

/-- **When all has been thrown away that waits to be read, nothing is left of it.** Each
read takes one datagram, so the reading ends, and it ends only when there is none. -/
theorem discard_eq (s : Socket) : s.discard = { s with queued := [] } := by
  obtain ⟨client, queued⟩ := s
  induction queued with
  | nil =>
    rw [discard]
    rfl
  | cons datagram rest ih =>
    rw [discard]
    exact ih

/-- So only what arrives while the client waits can decide a request. What it leaves
unread, and what comes late, is left over. -/
theorem exchange_eq (s : Socket) (request : Message) (arriving late : List Bytes) :
    let waited := await s.client.patience request arriving
    s.exchange request arriving late = (waited.1, { s with queued := waited.2 ++ late }) := by
  unfold exchange
  rw [discard_eq]
  rfl

/-- And so it is with a call. -/
theorem call_eq (s : Socket) (call : Call) (arriving late : List Bytes) :
    let waited := await s.client.patience (call.request s.client.name) arriving
    s.call call arriving late = (conclude waited.1, { s with queued := waited.2 ++ late }) := by
  unfold Socket.call
  rw [exchange_eq]

end Socket

/-! ## Delivery -/

/-- A call is concluded from what has come of its request. -/
theorem Socket.call_fst (s : Socket) (call : Call) (arriving late : List Bytes) :
    (s.call call arriving late).1
      = conclude ((arriving.findSome? (verdict (call.request s.client.name))).getD
        (.error (.timeout s.client.patience))) := by
  rw [← await_fst, call_eq]

/-- **Client and service agree on every call.** Whatever name the client may have, and
whatever state the service is in, the service reads the request as it was sent, the
client reads the reply as it was sent, and takes it for the answer. So the caller is told
what came of the operation, unless something else has told the caller before; and it is
never told that there was no reply. Only a request for a port in nobody's name makes no
sense. -/
theorem Socket.call_of_delivered {s : Socket} (hname : checkServiceName s.client.name = .ok ())
    (pool : Pool) (now : Instant) (call : Call) :
    let request := call.request s.client.name
    let reply := (Service.answer pool now request.encode).1
    let outcome := call.operate pool s.client.name now
    Message.decode (received request.encode) = .ok request
      ∧ Message.decode (received reply.encode) = .ok reply
      ∧ answers request reply = true
      ∧ (Service.answer pool now request.encode).2 = outcome.2
      ∧ (∀ earlier later late, (∀ datagram ∈ earlier, verdict request datagram = none) →
        (s.call call (earlier ++ reply.encode :: later) late).1
          = call.told s.client.name outcome.1)
      ∧ (∀ earlier later late patience,
        (s.call call (earlier ++ reply.encode :: later) late).1 ≠ .error (.timeout patience))
      ∧ (outcome.1 = .error .undefinedError ↔ call = .requestPort ∧ s.client.name = "") := by
  intro request reply outcome
  have hrequest : checkServiceName request.name = .ok () := Call.check_request hname call
  have hanswer : Service.answer pool now request.encode = Service.handle pool now request :=
    Service.answer_encode hrequest pool now
  have hgives : Gives request reply := Service.gives_answer_encode hrequest pool now
  have hback : Message.decode (received reply.encode) = .ok reply :=
    Message.decode_received_encode (hgives.check_name hrequest)
  have hanswers : answers request reply = true := hgives.answers_eq Call.name_request_of_stop
  have hverdict : verdict request reply.encode = some (.ok reply) :=
    verdict_eq_ok_iff.mpr ⟨hback, hgives.kind_eq, hanswers⟩
  have htold := Call.handle_request pool s.client.name now call
  refine ⟨Message.decode_received_encode hrequest, hback, hanswers, ?_,
    fun earlier later late hearlier => ?_, fun earlier later late patience => ?_,
    call.operate_eq_undefinedError_iff pool _ now⟩
  · rw [hanswer]
    exact congrArg Prod.snd htold
  · have hnone : earlier.findSome? (verdict request) = none :=
      List.findSome?_eq_none_iff.mpr hearlier
    rw [Socket.call_fst, List.findSome?_append, hnone, Option.none_or, List.findSome?_cons,
      hverdict]
    show expectSuccess (Service.answer pool now request.encode).1 = _
    rw [hanswer]
    exact congrArg Prod.fst htold
  · rw [Socket.call_fst, List.findSome?_append]
    cases hearlier : earlier.findSome? (verdict request) with
    | some result =>
      obtain ⟨datagram, -, hdatagram⟩ := List.exists_of_findSome?_eq_some hearlier
      exact verdict_ne_timeout hdatagram patience
    | none =>
      rw [Option.none_or, List.findSome?_cons, hverdict]
      exact verdict_ne_timeout hverdict patience

/-- A renewal whose reply comes after one that is about another port. -/
theorem Socket.call_of_delivered_after_another :
    let s : Socket := { client := { name := "printer", patience := .ofSeconds 5 }, queued := [] }
    let pool : Pool :=
      { first := 40000, last := 40000, timeout := .ofSeconds 300
        slots := [{ port := 40000, holder := some { name := "printer", renewed := 0 } }]
        lowestFree := 1, stopped := false }
    let other := (Message.response "printer" 40001 .serviceNotFound).encode
    let reply := (Service.answer pool 5 ((Call.keepAlive 40000).request "printer").encode).1
    checkServiceName s.client.name = .ok ()
      ∧ (∀ datagram ∈ [other],
        verdict ((Call.keepAlive 40000).request "printer") datagram = none)
      ∧ (s.call (.keepAlive 40000) [other, reply.encode] []).1
        = .ok (.response "printer" 40000 .success) := by
  intro s pool other reply
  have hname : checkServiceName s.client.name = .ok () := by decide
  have hother : ∀ datagram ∈ [other],
      verdict ((Call.keepAlive 40000).request "printer") datagram = none := by decide
  obtain ⟨-, -, -, -, htold, -⟩ := Socket.call_of_delivered hname pool 5 (.keepAlive 40000)
  exact ⟨hname, hother, htold [other] [] [] hother⟩

end Moorings.Lease
