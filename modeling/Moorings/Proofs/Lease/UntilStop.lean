import Moorings.Proofs.Lease.Replies
import Moorings.Proofs.Lease.Operations

/-!
# The service runs until it is told to stop

The service knows of bytes, of a size to which a datagram is cut, of datagrams that are no
messages, and of a mark in its pool that tells it to end. None of this is needed to say
what a run comes to. Of the datagrams that come, those up to the first `STOP` are
*attended* to, that one included, and of these some carry a message. The messages are
handled one after another, and that is the pool in the end; every other datagram is
answered as an undefined request, and might as well not have come.

`serve_until_stop` is this law. Two facts carry it. A datagram that is cut is still too
long, so that no message is seen in the front of one (`decode_received`). And the mark is
set by a `STOP` and by nothing else (`stopped_handle`).
-/

namespace Moorings.Lease

open Text (utf8)

namespace Pool

/-! ## What tells the service to end -/

variable {p : Pool}

/-- Leasing a port does not stop the pool. -/
theorem stopped_allocate (p : Pool) (name : String) (now : Instant) :
    (p.allocate name now).2.stopped = p.stopped := by
  unfold allocate
  dsimp only
  split
  · rfl
  · rfl

theorem stopped_renew (p : Pool) (port : UInt16) (name : String) (now : Instant) :
    (p.renew port name now).2.stopped = p.stopped := by
  unfold renew
  split
  · rfl
  · rfl

theorem stopped_release (p : Pool) (port : UInt16) (name : String) :
    (p.release port name).2.stopped = p.stopped := by
  unfold release
  split
  · rfl
  · rfl

/-- **Only one operation stops the pool.** -/
theorem stopped_step (p : Pool) (op : Op) :
    (p.step op).2.stopped = (p.stopped || decide (op = .stop)) := by
  cases op with
  | allocate name now => exact (p.stopped_allocate name now).trans (Bool.or_false _).symm
  | renew port name now => exact (p.stopped_renew port name now).trans (Bool.or_false _).symm
  | release port name => exact (p.stopped_release port name).trans (Bool.or_false _).symm
  | lookup name now => exact (Bool.or_false _).symm
  | expire now => exact (Bool.or_false _).symm
  | stop => exact (Bool.or_true _).symm

/-- A new pool has not been asked to stop. -/
theorem stopped_of_new {first last : UInt16} {timeout : Span}
    (h : Pool.new first last timeout = .ok p) : p.stopped = false := by
  unfold Pool.new at h
  split at h
  · cases h
  · cases h
    rfl

end Pool

namespace Service

/-- **Only a `STOP` stops the service.** -/
theorem stopped_handle (pool : Pool) (now : Instant) (m : Message) :
    (handle pool now m).2.stopped = (pool.stopped || decide (m.kind = .stop)) := by
  rw [handle_eq]
  unfold operation?
  cases m.kind with
  | requestPort =>
    by_cases hname : m.name = ""
    · simp [hname]
    · simp [hname, Pool.stopped_step]
  | keepAlive => simp [Pool.stopped_step]
  | closePort => simp [Pool.stopped_step]
  | lookupPort => simp [Pool.stopped_step]
  | stop => simp [Pool.stopped_step]
  | response => simp

/-! ## What is seen in a datagram -/

/-- **The message in a datagram**, if it is no longer than a datagram may be and is legible. -/
def message? (datagram : Bytes) : Option Message := (Message.decode datagram).toOption

/-- **A datagram that is cut is not a message.** What has been received of one that is too
long is too long. -/
theorem decode_received (datagram : Bytes) :
    (Message.decode (received datagram)).toOption = message? datagram := by
  by_cases h : datagram.length ≤ maxDatagram
  · rw [received_of_length_le h, message?]
  · have hcut : maxDatagram < (received datagram).length := by
      rw [received, List.length_take]
      omega
    rw [message?, Message.decode, if_pos hcut, Message.decode, if_pos (Nat.lt_of_not_le h)]
    rfl

theorem message?_of_lt {datagram : Bytes} (h : maxDatagram < datagram.length) :
    message? datagram = none := by
  rw [message?, Message.decode, if_pos h]
  rfl

/-- The answer to a datagram is the reply to its message, if it has one. -/
theorem answer_of_message {datagram : Bytes} {m : Message} (h : message? datagram = some m)
    (pool : Pool) (now : Instant) : answer pool now datagram = handle pool now m := by
  rw [← decode_received] at h
  unfold answer
  cases hdecode : Message.decode (received datagram) with
  | error error => simp [hdecode, Except.toOption] at h
  | ok m' =>
    obtain rfl : m' = m := by simpa [hdecode, Except.toOption] using h
    rfl

/-- **If it has none**, it is answered as an undefined request, and nothing changes. -/
theorem answer_of_no_message {datagram : Bytes} (h : message? datagram = none)
    (pool : Pool) (now : Instant) :
    answer pool now datagram = (.undefinedError, pool) := by
  rw [← decode_received] at h
  unfold answer
  cases hdecode : Message.decode (received datagram) with
  | error error => rfl
  | ok m' => simp [hdecode, Except.toOption] at h

/-- Nor does anything change at a message that asks for nothing that can be done. -/
theorem handle_of_undefined {m : Message}
    (h : m.kind = .response ∨ m.kind = .requestPort ∧ m.name = "") (pool : Pool)
    (now : Instant) : handle pool now m = (.undefinedError, pool) := by
  unfold handle
  obtain h | ⟨h, hname⟩ := h
  · rw [h]
  · rw [h]
    exact if_pos hname

/-! ## What is attended to -/

/-- Whether a datagram tells the service to stop. -/
def isStop (datagram : Bytes) : Bool := (message? datagram).any (·.kind = .stop)

/-- **The datagrams that are attended to**: those up to the first that tells the service to
stop, and this one. -/
def attended (events : List (Instant × Bytes)) : List (Instant × Bytes) :=
  events.take (events.findIdx (isStop ·.2) + 1)

/-- The messages in datagrams, with the times at which they came. -/
def messages (events : List (Instant × Bytes)) : List (Instant × Message) :=
  events.filterMap fun event => (message? event.2).map (event.1, ·)

variable {pool : Pool} {now : Instant} {datagram : Bytes} {events : List (Instant × Bytes)}

/-- A service that goes on stops at a datagram that tells it to, and at no other. -/
theorem stopped_answer (h : pool.stopped = false) (now : Instant) (datagram : Bytes) :
    (answer pool now datagram).2.stopped = isStop datagram := by
  unfold isStop
  cases hmessage : message? datagram with
  | none =>
    rw [answer_of_no_message hmessage]
    exact h
  | some m =>
    rw [answer_of_message hmessage, stopped_handle, h, Bool.false_or]
    rfl

/-- The pool after a datagram is the one after its message, if it has one. -/
theorem snd_answer (pool : Pool) (now : Instant) (datagram : Bytes) :
    (answer pool now datagram).2 = (handleAll pool (messages [(now, datagram)])).2 := by
  unfold messages
  cases h : message? datagram with
  | none =>
    rw [answer_of_no_message h]
    simp [h, handleAll]
  | some m =>
    rw [answer_of_message h]
    simp [h, handleAll]

theorem handleAll_append (pool : Pool) (ms more : List (Instant × Message)) :
    (handleAll pool (ms ++ more)).2 = (handleAll (handleAll pool ms).2 more).2 := by
  induction ms generalizing pool with
  | nil => rfl
  | cons m ms ih => exact ih (handle pool m.1 m.2).2

/-- What came first is handled first. -/
theorem handleAll_messages_cons (pool : Pool) (now : Instant) (datagram : Bytes)
    (events : List (Instant × Bytes)) :
    (handleAll pool (messages ((now, datagram) :: events))).2
      = (handleAll (answer pool now datagram).2 (messages events)).2 := by
  rw [snd_answer, ← handleAll_append, messages, messages, messages, ← List.filterMap_append]
  rfl

theorem attended_cons_of_isStop (h : isStop datagram = true) :
    attended ((now, datagram) :: events) = [(now, datagram)] := by
  simp [attended, List.findIdx_cons, h]

theorem attended_cons (h : isStop datagram = false) :
    attended ((now, datagram) :: events) = (now, datagram) :: attended events := by
  simp [attended, List.findIdx_cons, h]

/-! ## A whole run -/

/-- A service that has stopped says nothing. -/
theorem serve_of_stopped (h : pool.stopped = true) (events : List (Instant × Bytes)) :
    serve pool events = (List.replicate events.length none, pool) := by
  induction events with
  | nil => rfl
  | cons event events ih =>
    rw [serve, if_pos h, ih]
    rfl

/-- One that has not answers the next datagram. -/
theorem serve_cons (h : pool.stopped = false) (now : Instant) (datagram : Bytes)
    (events : List (Instant × Bytes)) :
    serve pool ((now, datagram) :: events)
      = (some (answer pool now datagram).1.encode
          :: (serve (answer pool now datagram).2 events).1,
        (serve (answer pool now datagram).2 events).2) := by
  rw [serve, if_neg (Bool.eq_false_iff.mp h)]

/-- **Every datagram that is attended to has one reply**, and no other has any. -/
theorem isSome_serve (h : pool.stopped = false) (events : List (Instant × Bytes)) :
    (serve pool events).1.map Option.isSome
      = List.replicate (attended events).length true
        ++ List.replicate (events.length - (attended events).length) false := by
  induction events generalizing pool with
  | nil => rfl
  | cons event events ih =>
    obtain ⟨now, datagram⟩ := event
    have hstopped := stopped_answer h now datagram
    rw [serve_cons h]
    cases hstop : isStop datagram with
    | true =>
      rw [serve_of_stopped (hstopped.trans hstop), attended_cons_of_isStop hstop]
      simp
    | false =>
      rw [attended_cons hstop, List.map_cons, ih (hstopped.trans hstop)]
      simp [List.replicate_succ]

/-- **The pool in the end** is the one after the messages that were attended to. -/
theorem snd_serve (h : pool.stopped = false) (events : List (Instant × Bytes)) :
    (serve pool events).2 = (handleAll pool (messages (attended events))).2 := by
  induction events generalizing pool with
  | nil => rfl
  | cons event events ih =>
    obtain ⟨now, datagram⟩ := event
    have hstopped := stopped_answer h now datagram
    rw [serve_cons h]
    cases hstop : isStop datagram with
    | true =>
      rw [serve_of_stopped (hstopped.trans hstop), attended_cons_of_isStop hstop,
        handleAll_messages_cons]
      rfl
    | false =>
      rw [attended_cons hstop, handleAll_messages_cons]
      exact ih (hstopped.trans hstop)

/-- **The reply to a datagram that is attended to** is the answer of the pool after the
messages before it. -/
theorem getElem?_serve (h : pool.stopped = false) {i : Nat}
    (hi : (attended events)[i]? = some (now, datagram)) :
    (serve pool events).1[i]?
      = some (some (answer (handleAll pool (messages (events.take i))).2 now datagram).1.encode) := by
  induction events generalizing pool i with
  | nil => simp [attended] at hi
  | cons event events ih =>
    obtain ⟨first, front⟩ := event
    have hstopped := stopped_answer h first front
    rw [serve_cons h]
    cases i with
    | zero =>
      obtain ⟨rfl, rfl⟩ : first = now ∧ front = datagram := by simpa [attended] using hi
      rfl
    | succ i =>
      cases hstop : isStop front with
      | true => simp [attended_cons_of_isStop hstop] at hi
      | false =>
        rw [attended_cons hstop, List.getElem?_cons_succ] at hi
        rw [List.getElem?_cons_succ, List.take_succ_cons, handleAll_messages_cons]
        exact ih (hstopped.trans hstop) hi

/-- **What a run of the service comes to**, whatever the datagrams are and whenever they
come. Those up to the first that tells it to stop have one reply each, and the others have
none. The pool in the end is the one that handling their messages in order makes of the
pool at the beginning, and each of them is answered by the pool as it is then: if there is
a message in it, with the reply to the message. If there is none, or the datagram is too
long, whatever its front is, or the message asks for nothing that can be done, it is
answered as an undefined request, and nothing changes. -/
theorem serve_until_stop {first last : UInt16} (timeout : Span) (hle : first ≤ last) :
    ∃ pool, Pool.new first last timeout = .ok pool ∧ ∀ events : List (Instant × Bytes),
      (serve pool events).1.map Option.isSome
          = List.replicate (attended events).length true
            ++ List.replicate (events.length - (attended events).length) false
        ∧ (serve pool events).2 = (handleAll pool (messages (attended events))).2
        ∧ ∀ i now datagram, (attended events)[i]? = some (now, datagram) →
          let before := (handleAll pool (messages (events.take i))).2
          let after := (handleAll pool (messages (events.take (i + 1)))).2
          ∃ reply : Message, (serve pool events).1[i]? = some (some reply.encode)
            ∧ (∀ m, message? datagram = some m → (reply, after) = handle before now m)
            ∧ (message? datagram = none ∨ maxDatagram < datagram.length
                ∨ (∃ m, message? datagram = some m
                  ∧ (m.kind = .response ∨ m.kind = .requestPort ∧ m.name = "")) →
              reply = .response "" 0 .undefinedError ∧ after = before) := by
  obtain ⟨pool, hpool⟩ : ∃ p, Pool.new first last timeout = .ok p :=
    ⟨_, if_neg (UInt16.not_lt.mpr hle)⟩
  have hgoing := Pool.stopped_of_new hpool
  refine ⟨pool, hpool, fun events => ⟨isSome_serve hgoing events, snd_serve hgoing events,
    fun i now datagram hi => ?_⟩⟩
  intro before after
  have hevent : events[i]? = some (now, datagram) := by
    rw [attended, List.getElem?_take] at hi
    split at hi
    · exact hi
    · cases hi
  have hafter : after = (answer before now datagram).2 := by
    show (handleAll pool (messages (events.take (i + 1)))).2 = _
    rw [snd_answer, ← handleAll_append, messages, messages, messages, ← List.filterMap_append,
      List.take_add_one, hevent]
    rfl
  have hnone : message? datagram = none →
      (answer before now datagram).1 = .undefinedError ∧ after = before := by
    intro h
    rw [hafter, answer_of_no_message h]
    exact ⟨rfl, rfl⟩
  refine ⟨(answer before now datagram).1, getElem?_serve hgoing hi, fun m hm => ?_, ?_⟩
  · rw [hafter, answer_of_message hm]
  · rintro (h | h | ⟨m, hm, hundefined⟩)
    · exact hnone h
    · exact hnone (message?_of_lt h)
    · rw [hafter, answer_of_message hm, handle_of_undefined hundefined]
      exact ⟨rfl, rfl⟩

/-- A `STOP` with a byte too many, something that is no text, a request, a `STOP` and another
request. -/
theorem serve_until_stop_of_long :
    let front := (Message.request .stop (longName 1008) 0).encode
    let events : List (Instant × Bytes) :=
      [(0, front ++ [10]), (1, [255]), (2, utf8 "REQUEST_PORT\nprinter\n0\nSUCCESS\n"),
        (3, utf8 "STOP\n\n0\nSUCCESS\n"), (4, utf8 "REQUEST_PORT\nscanner\n0\nSUCCESS\n")]
    front.length = 1024 ∧ isStop front = true ∧ (40000 : UInt16) ≤ 40001
      ∧ ∃ pool, Pool.new 40000 40001 (.ofSeconds 300) = .ok pool
        ∧ (serve pool events).1.map Option.isSome = [true, true, true, true, false]
        ∧ (serve pool events).1[0]? = some (some Message.undefinedError.encode)
        ∧ (serve pool events).2.leases = [(40000, "printer")]
        ∧ (serve pool events).2.stopped = true := by
  intro front events
  have hsize : ∀ name : String, name.utf8ByteSize = 1008 →
      (Message.request .stop name 0).encode.length = 1024 := by
    intro name hname
    have hzero : (0 : UInt16).toNat.repr.utf8ByteSize = 1 := rfl
    rw [Message.length_encode]
    show 4 + name.utf8ByteSize + (0 : UInt16).toNat.repr.utf8ByteSize + 7 + 4 = 1024
    rw [hname, hzero]
  have hlength : front.length = 1024 := hsize _ (utf8ByteSize_longName 1008)
  have hfront : isStop front = true := by
    have hdecode : Message.decode front = .ok (.request .stop (longName 1008) 0) := by
      refine (Message.decode_encode_eq_ok_iff fun hmem => ?_).mpr
        ⟨Nat.le_of_eq hlength, fun hlast => ?_⟩
      · exact absurd (eq_of_mem_longName hmem) (by decide)
      · exact absurd (eq_of_mem_longName (List.mem_of_getLast? hlast)) (by decide)
    rw [isStop, message?, hdecode]
    rfl
  have hlong : maxDatagram < (front ++ [10]).length := by
    rw [List.length_append, hlength]
    exact Nat.lt_succ_self maxDatagram
  clear_value front
  have hattended : attended events = events.take 4 := by
    rw [attended_cons (by rw [isStop, message?_of_lt hlong]; rfl), attended_cons (by decide),
      attended_cons (by decide), attended_cons_of_isStop (by decide)]
    rfl
  have hmessages : messages (events.take 4)
      = [(2, .request .requestPort "printer" 0), (3, .request .stop "" 0)] := by
    have hrest : messages [(1, [255]), (2, utf8 "REQUEST_PORT\nprinter\n0\nSUCCESS\n"),
          (3, utf8 "STOP\n\n0\nSUCCESS\n")]
        = [(2, .request .requestPort "printer" 0), (3, .request .stop "" 0)] := by decide
    show messages ((0, front ++ [10]) :: _) = _
    rw [messages, List.filterMap_cons, message?_of_lt hlong]
    exact hrest
  obtain ⟨pool, hpool, hserve⟩ :=
    serve_until_stop (.ofSeconds 300) (show (40000 : UInt16) ≤ 40001 by decide)
  obtain ⟨hsome, hafter, hreplies⟩ := hserve events
  obtain ⟨reply, hreply, -, hundefined⟩ := hreplies 0 0 (front ++ [10]) (by rw [hattended]; rfl)
  rw [(hundefined (.inr (.inl hlong))).1] at hreply
  rw [hattended, hmessages] at hafter
  rw [hattended] at hsome
  refine ⟨hlength, hfront, by decide, pool, hpool, hsome, hreply, ?_, ?_⟩
  · rw [hafter]
    cases hpool
    decide
  · rw [hafter]
    cases hpool
    decide

end Service

end Moorings.Lease
