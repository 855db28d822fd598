import Moorings.Proofs.Session.Links

/-!
# Answers that come late

The bytes of a response come in pieces, and may come when the client does not wait for
them any more. `SlowLink` is a client and the stream that it reads from, with whatever
delays there may be: what the server has written arrives when it arrives and is cut
wherever it is cut, and the client gives up whenever it likes.

A client has one request on its way at most, and reads its response to the end or gives
up on the connection. So the front of the stream is always the response to the request
that was made last, and no client takes a late answer for the next one
(`SlowLink.turns_of_run`).

One thing is asked of the server for it, besides that it answers each request once and in
order: that it does not answer a post with a document (`Response.canAnswer`). A client
that has posted something reads only the word `success`, and takes what is left of the
document for the response to its next request (`SlowLink.document_taken_for_next`). The
server of this library does not answer so (`Response.canAnswer_handle`).
-/

namespace Moorings.Session

open Text (utf8)

namespace Response

/-! ## A response that has come in part -/

/-- **Whether this may be said in answer to a request.** -/
def canAnswer (response : Response) (request : Request) : Bool :=
  match request, response with
  | .post .., .document .. => false
  | _, _ => true

/-- What means what is expected is no document for a post. -/
theorem canAnswer_of_meantBy {call : Call} {response : Response}
    (h : response.MeantBy call.request.expect) : response.canAnswer call.request = true := by
  cases call with
  | post name content =>
    cases response with
    | document => cases h
    | _ => rfl
  | _ => rfl

/-- The server says nothing else. -/
theorem canAnswer_handle (c : Connection) (d : Directory) (call : Call) :
    (c.handle d call.request.received).1.response.canAnswer call.request = true :=
  canAnswer_of_meantBy (Link.meantBy_answered c.held d call)

/-- **What can be read of the front of a response** is the response, and then it has come
as a whole. If it is a document for which nobody has asked, it is the word `success` that
is read, which then does not answer the call either. -/
theorem eq_of_scan_front {call : Call} {response read : Response} {front back rest : Bytes}
    (hanswer : response.canAnswer call.request = true) (hfront : front ++ back = response.encode)
    (hscan : scan call.request.expect front = .done read rest) :
    read = response.received ∧ rest = [] ∧ back = []
      ∨ read = .success ∧ call.accept .success = none := by
  have hwhole : scan call.request.expect (response.encode ++ []) = .done read (rest ++ back) := by
    rw [List.append_nil, ← hfront]
    exact (stable_scan _).done hscan back
  by_cases hmeant : response.MeantBy call.request.expect
  · left
    cases hfits : response.fits with
    | true =>
      rw [scan_encode_of_fits hmeant hfits] at hwhole
      obtain ⟨rfl, hnil⟩ := Reading.done.inj hwhole
      exact ⟨rfl, List.append_eq_nil_iff.mp hnil.symm⟩
    | false =>
      obtain ⟨error, hfail⟩ := scan_encode_of_not_fits hmeant hfits []
      cases hfail.symm.trans hwhole
  · -- what does not mean what is expected is a document, or the word that should begin one
    right
    cases response with
    | document name content =>
      have hplain : call.request.expect = .plain := by
        cases hexpect : call.request.expect with
        | document => exact absurd hexpect hmeant
        | plain => rfl
      rw [hplain, List.append_nil, encode, List.append_assoc, List.append_assoc, scan_word]
        at hwhole
      obtain ⟨rfl, -⟩ := Reading.done.inj hwhole
      refine ⟨rfl, ?_⟩
      cases call with
      | post => cases hanswer
      | _ => rfl
    | success =>
      cases call with
      | get name => cases hwhole
      | _ => exact absurd rfl hmeant
    | _ => exact absurd trivial hmeant

end Response

/-- If there is not enough, then only the end of the stream is left to decide. -/
theorem Pipeline.receive_of_more {p : Pipeline} {buffer : Bytes}
    (h : Response.scan p.expected buffer = .more) (isEnded : Bool) :
    p.receive isEnded buffer
      = (if isEnded = true ∧ buffer ≠ [] then .fail (.trailingBytes buffer.length) else .more,
        p) := by
  cases isEnded with
  | false =>
    rw [receive, scan, if_neg Bool.false_ne_true, h, if_neg fun hend => Bool.false_ne_true hend.1]
  | true =>
    rw [receive, scan, if_pos rfl, Scan.atEnd, h]
    cases buffer with
    | nil => rfl
    | cons b buffer => rfl

/-! ## How a call may end -/

/-- **What makes a client give up.** -/
inductive IsFatal : Except ClientError Result → Prop
  | system (error : Net.SystemError) : IsFatal (.error (.system error))
  | timeout (patience : Span) : IsFatal (.error (.timeout patience))
  | protocol (error : ProtocolError) : IsFatal (.error (.protocol error))

/-- Whether this is what the server has said. -/
def isAnswer : Except ClientError Result → Bool
  | .ok _ | .error (.rejected _) | .error (.server _) => true
  | .error _ => false

theorem IsFatal.not_isAnswer {result : Except ClientError Result} (h : IsFatal result) :
    ¬isAnswer result = true := by
  cases h <;> exact nofun

namespace Client

/-- **A call over which the client has given up.** -/
def GaveUp (ended : Except ClientError Result × Client) : Prop :=
  IsFatal ended.1 ∧ ended.2.isBroken = true

variable {c : Client} {call : Call} {arriving : Bytes}

/-- A client that has given up sends nothing. -/
theorem send_of_isBroken (h : c.isBroken = true) (wire : Except Net.SystemError Unit)
    (request : Request) : c.send wire request = (.error .disconnected, c) := by
  unfold send
  rw [if_pos h]

/-- One that has not sends its request, or gives up. -/
theorem send_of_not_isBroken (h : c.isBroken = false)
    (wire : Except Net.SystemError Unit) (request : Request) :
    (∃ error, c.send wire request = (.error (.protocol error), c.giveUp))
      ∨ ∃ bytes, request.encode = .ok bytes ∧ c.send wire request
        = (.ok bytes,
          { c with pipeline := { pending := c.pipeline.pending ++ [request.expect] } }) := by
  cases hencode : request.encode with
  | error error => exact .inl ⟨_, send_of_error h hencode wire⟩
  | ok bytes =>
    cases wire with
    | ok _ => exact .inr ⟨_, rfl, send_of_ok h hencode⟩
    | error error =>
      left
      unfold send
      rw [if_neg (Bool.eq_false_iff.mp h), Pipeline.send_eq_ok_iff.mpr ⟨hencode, rfl⟩]
      exact ⟨_, rfl⟩

/-- What is told is an answer, or the client gives up over it. -/
theorem told_cases (c : Client) (call : Call) (response : Response) :
    GaveUp (c.told call response)
      ∨ isAnswer (c.told call response).1 = true
        ∧ ∃ session, (c.told call response).2 = { c with session } := by
  unfold told
  split
  · exact .inr ⟨rfl, _, rfl⟩
  · exact .inr ⟨rfl, _, rfl⟩
  · split
    · rename_i result _
      refine .inr ⟨rfl, ?_⟩
      cases result with
      | session id => exact ⟨_, rfl⟩
      | ended id =>
        show ∃ session, (if c.session = some id then { c with session := none } else c) = _
        split
        · exact ⟨_, rfl⟩
        · exact ⟨c.session, rfl⟩
      | content text => exact ⟨_, rfl⟩
      | done => exact ⟨_, rfl⟩
    · exact .inl ⟨.protocol _, rfl⟩

/-- What the caller is told does not depend on the client. -/
theorem told_fst (c c' : Client) (call : Call) (response : Response) :
    (c.told call response).1 = (c'.told call response).1 := by
  unfold told
  split
  · rfl
  · rfl
  · split
    · rfl
    · rfl

/-- Over a bare success the client gives up, unless it has posted something. -/
theorem told_success (h : call.accept .success = none) (c : Client) :
    c.told call .success
      = (.error (.protocol (.unexpectedResponse Response.success.shown)), c.giveUp) := by
  unfold told
  dsimp only
  rw [h]

/-- If there is not enough, then the client finds the stream at its end, or gives up. -/
theorem await_of_more (h : Response.scan c.pipeline.expected (c.inbox ++ arriving) = .more)
    (isEnded : Bool) :
    GaveUp (c.await call arriving isEnded)
      ∨ isEnded = true
        ∧ c.await call arriving isEnded = (.error .disconnected, { c with inbox := [] }) := by
  have hreceive := Pipeline.receive_of_more h isEnded
  by_cases hleft : isEnded = true ∧ c.inbox ++ arriving ≠ []
  · rw [if_pos hleft] at hreceive
    rw [await_of_error (receive_of_fail hreceive)]
    exact .inl ⟨.protocol _, rfl⟩
  · rw [if_neg hleft] at hreceive
    unfold await receive
    dsimp only
    rw [hreceive]
    cases isEnded with
    | false => exact .inl ⟨.timeout _, rfl⟩
    | true =>
      have hnil : c.inbox ++ arriving = [] := not_not.mp fun hne => hleft ⟨rfl, hne⟩
      rw [hnil]
      exact .inr ⟨rfl, rfl⟩

/-- **How a call that waits may end**, whatever has come. The client gives up, or finds the
stream at its end, or reads a response and is told what it says. -/
theorem await_cases (hpending : c.pipeline.pending = [call.request.expect]) (isEnded : Bool) :
    GaveUp (c.await call arriving isEnded)
      ∨ (isEnded = true
        ∧ c.await call arriving isEnded = (.error .disconnected, { c with inbox := [] }))
      ∨ ∃ read rest, Response.scan call.request.expect (c.inbox ++ arriving) = .done read rest
        ∧ c.await call arriving isEnded
          = ({ c with inbox := rest, pipeline := {} } : Client).told call read := by
  have hexpected : c.pipeline.expected = call.request.expect := by
    rw [Pipeline.expected, hpending]
    rfl
  rw [← hexpected]
  cases hscan : Response.scan c.pipeline.expected (c.inbox ++ arriving) with
  | more => exact (await_of_more hscan isEnded).imp_right .inl
  | fail error =>
    rw [await_of_error (receive_of_fail (Pipeline.receive_of_fail hscan isEnded))]
    exact .inl ⟨.protocol _, rfl⟩
  | done read rest =>
    have hreceive := Pipeline.receive_of_done hscan isEnded
    rw [hpending] at hreceive
    rw [await_of_ok (receive_of_done hreceive)]
    exact .inr (.inr ⟨read, rest, rfl, rfl⟩)

/-- **A call that waits for a response** of which the front has come. The client gives
up, or finds the stream at its end, or the response has come as a whole, and the client
is told what it says. -/
theorem await_front {response : Response} {back : Bytes}
    (hpending : c.pipeline.pending = [call.request.expect])
    (hanswer : response.canAnswer call.request = true)
    (hfront : c.inbox ++ arriving ++ back = response.encode) (isEnded : Bool) :
    GaveUp (c.await call arriving isEnded)
      ∨ (isEnded = true
        ∧ c.await call arriving isEnded = (.error .disconnected, { c with inbox := [] }))
      ∨ back = [] ∧ c.await call arriving isEnded
        = ({ c with inbox := [], pipeline := {} } : Client).told call response.received := by
  obtain hgone | hended | ⟨read, rest, hscan, htells⟩ := await_cases hpending isEnded
  · exact .inl hgone
  · exact .inr (.inl hended)
  · rw [htells]
    obtain ⟨rfl, rfl, rfl⟩ | ⟨rfl, hnone⟩ := Response.eq_of_scan_front hanswer hfront hscan
    · exact .inr (.inr ⟨rfl, rfl⟩)
    · rw [told_success hnone]
      exact .inl ⟨.protocol _, rfl⟩

end Client

/-! ## A stream with delays -/

namespace SlowLink

/-- A call that has sent its request. -/
structure Waiting where
  /-- The call. -/
  call : Call
  /-- Which of the requests on the connection is its request. -/
  number : Nat
  /-- The bytes that it has sent. -/
  sent : Bytes

/-- **A call that is over**, and what the client holds after it. -/
structure Turn extends Waiting where
  /-- What has come of it. -/
  result : Except ClientError Result
  /-- The session that the client holds then. -/
  session : Option UInt64

/-- What can happen. -/
inductive Event where
  /-- The client makes a call; `wire` tells whether the connection takes its request. -/
  | call (call : Call) (wire : Except Net.SystemError Unit)
  /-- The server answers the first request that it has not answered. -/
  | answer (response : Response)
  /-- This many bytes arrive. -/
  | arrive (n : Nat)
  /-- The server ends its side, and this many bytes of what it has written get through. -/
  | close (n : Nat)
  /-- The end of the stream arrives. -/
  | arriveEnd
  /-- The client has waited long enough. -/
  | expire

end SlowLink

open SlowLink (Waiting Turn Event)

/-- **A client and the stream that it reads from**, whatever the delays. -/
structure SlowLink where
  client : Client
  /-- The call that waits for its response, if there is one. -/
  waiting : Option Waiting := none
  /-- The requests that have been sent. -/
  asked : List Request := []
  /-- The responses to them, in the same order. -/
  told : List Response := []
  /-- What the server has written and has not arrived. -/
  coming : Bytes := []
  /-- Whether the server has ended its side. -/
  isClosed : Bool := false
  /-- Whether the end of the stream has arrived. -/
  isEnded : Bool := false
  /-- The calls that are over. -/
  turns : List Turn := []

namespace SlowLink

/-- **The call that waits is over**, with what can be read when this many more bytes have
arrived. -/
def conclude (l : SlowLink) (w : Waiting) (n : Nat) : SlowLink :=
  let (result, client) := l.client.await w.call (l.coming.take n) l.isEnded
  { l with client, waiting := none, coming := l.coming.drop n
           turns := l.turns ++ [{ w with result, session := client.session }] }

/-- **What happens.** A client that waits tries to read as soon as something arrives, and
goes on waiting if it is not enough. -/
def step (l : SlowLink) : Event → SlowLink
  | .call call wire =>
    match l.waiting with
    | some _ => l
    | none =>
      match l.client.send wire call.request with
      | (.error error, client) =>
        { l with client
                 turns := l.turns ++ [{ call, number := l.asked.length, sent := []
                                        result := .error error, session := client.session }] }
      | (.ok sent, client) =>
        { l with client, waiting := some { call, number := l.asked.length, sent }
                 asked := l.asked ++ [call.request] }
  | .answer response =>
    match l.asked[l.told.length]? with
    | some _ =>
      if l.isClosed then l
      else { l with told := l.told ++ [response], coming := l.coming ++ response.encode }
    | none => l
  | .arrive n =>
    let inbox := l.client.inbox ++ l.coming.take n
    match l.waiting, (l.client.pipeline.receive l.isEnded inbox).1 with
    | some w, .done .. => l.conclude w n
    | some w, .fail _ => l.conclude w n
    | _, _ => { l with client := { l.client with inbox }, coming := l.coming.drop n }
  | .close n =>
    if l.isClosed then l else { l with coming := l.coming.take n, isClosed := true }
  | .arriveEnd =>
    if l.isClosed = true ∧ l.coming = [] then
      let l := { l with isEnded := true }
      match l.waiting with
      | some w => l.conclude w 0
      | none => l
    else l
  | .expire =>
    match l.waiting with
    | some w => l.conclude w 0
    | none => l

/-- One thing after another. -/
def run : SlowLink → List Event → SlowLink := List.foldl step

/-! ## What is known of it -/

variable {l l' : SlowLink} {w : Waiting}

/-- **Up to some request no post has been answered with a document.** -/
def WellAnswered (l : SlowLink) (n : Nat) : Prop :=
  ∀ number ≤ n, ∀ request ∈ l.asked[number]?, ∀ response ∈ l.told[number]?,
    response.canAnswer request = true

instance (l : SlowLink) (n : Nat) : Decidable (l.WellAnswered n) :=
  inferInstanceAs (Decidable (∀ number ≤ n, ∀ request ∈ l.asked[number]?,
    ∀ response ∈ l.told[number]?, response.canAnswer request = true))

/-- **The result of a call is what the server has said** to the request of that call, if
all has been well up to then. -/
def Turn.Told (l : SlowLink) (turn : Turn) : Prop :=
  l.asked[turn.number]? = some turn.call.request
    ∧ (l.WellAnswered turn.number → ∃ response, l.told[turn.number]? = some response
      ∧ ∀ c : Client, turn.result = (c.told turn.call response.received).1)

/-- A call has sent its request, and is the only one that has no answer. -/
structure Waits (l : SlowLink) (w : Waiting) : Prop where
  sound : l.client.isBroken = false
  waiting : l.waiting = some w
  pending : l.client.pipeline.pending = [w.call.request.expect]
  asked : l.asked.length = w.number + 1
  request : l.asked[w.number]? = some w.call.request

/-- **What there is of the stream while a call waits.** -/
inductive Awaits (l : SlowLink) (w : Waiting) : Prop
  /-- The server has not answered. -/
  | asking (hinbox : l.client.inbox = []) (hcoming : l.coming = [])
    (htold : l.told.length = w.number)
  /-- The server has answered. Of the answer something has arrived, something is coming, and
  something may never come. -/
  | answering {response : Response} (htold : l.told.length = w.number + 1)
    (hresponse : l.told[w.number]? = some response)
    (hfront : l.client.inbox ++ l.coming <+: response.encode)

/-- **Where a link stands.** The stream is where it should be if all has been well so far. -/
inductive Phase (l : SlowLink) : Prop
  /-- The client has given up. -/
  | broken (hbroken : l.client.isBroken = true) (hwaiting : l.waiting = none)
  /-- The client has found the stream at its end. -/
  | gone (hbroken : l.client.isBroken = false) (hended : l.isEnded = true)
    (hinbox : l.client.inbox = []) (hseen : ∃ turn ∈ l.turns, turn.result = .error .disconnected)
  /-- Nobody waits for anything, and nothing is on its way. -/
  | idle (hbroken : l.client.isBroken = false) (hwaiting : l.waiting = none)
    (hpending : l.client.pipeline.pending = [])
    (hstream : l.WellAnswered l.asked.length →
      l.client.inbox = [] ∧ l.coming = [] ∧ l.told.length = l.asked.length)
  /-- The client waits. -/
  | waiting {w : Waiting} (h : l.Waits w) (hstream : l.WellAnswered w.number → l.Awaits w)

/-- **What is known of a link and of the calls on it.** -/
structure InStep (l : SlowLink) : Prop where
  phase : Phase l
  ended : l.isEnded = true → l.isClosed = true ∧ l.coming = []
  told : ∀ turn ∈ l.turns, isAnswer turn.result = true → turn.Told l
  fatal : ∀ turn ∈ l.turns, IsFatal turn.result →
    l.client.isBroken = true ∧ l.client.session = turn.session
  fresh : ∀ w, l.waiting = some w → ∀ turn ∈ l.turns, isAnswer turn.result = true →
    turn.number < w.number
  order : l.turns.Pairwise fun earlier later =>
    (isAnswer earlier.result = true → earlier.number < later.number)
      ∧ (IsFatal earlier.result → later.result = .error .disconnected ∧ later.sent = []
        ∧ later.session = earlier.session)

theorem inStep_start (patience : Span) : InStep { client := { patience } } where
  phase := .idle rfl rfl rfl fun _ => ⟨rfl, rfl, rfl⟩
  ended h := nomatch h
  told _ h := nomatch h
  fatal _ h := nomatch h
  fresh _ h := nomatch h
  order := .nil

/-- If all has been well up to a request, then it had been before, and up to any request
before it. -/
theorem WellAnswered.mono {m n : Nat} (h : l'.WellAnswered n) (hle : m ≤ n)
    (hasked : l.asked <+: l'.asked) (htold : l.told <+: l'.told) : l.WellAnswered m := by
  intro number hnumber request hrequest response hresponse
  refine h number (hnumber.trans hle) request ?_ response ?_
  · grind [List.prefix_iff_getElem?]
  · grind [List.prefix_iff_getElem?]

/-- What is asked and told later is something else. -/
theorem Turn.Told.mono {turn : Turn} (h : turn.Told l) (hasked : l.asked <+: l'.asked)
    (htold : l.told <+: l'.told) : turn.Told l' := by
  obtain ⟨hrequest, hresult⟩ := h
  refine ⟨?_, fun hwell => ?_⟩
  · grind [List.prefix_iff_getElem?]
  · obtain ⟨response, hresponse, hresult⟩ := hresult (hwell.mono (Nat.le_refl _) hasked htold)
    refine ⟨response, ?_, hresult⟩
    grind [List.prefix_iff_getElem?]

/-- The request of a call that has been answered has been sent. -/
theorem Turn.Told.number_lt {turn : Turn} (h : turn.Told l) : turn.number < l.asked.length :=
  (List.getElem?_eq_some_iff.mp h.1).1

/-- While no call comes to its end, only the phase is to be looked at. -/
theorem InStep.of_turns_eq (h : InStep l) (hphase : Phase l')
    (hended : l'.isEnded = true → l'.isClosed = true ∧ l'.coming = [])
    (hturns : l'.turns = l.turns) (hbroken : l'.client.isBroken = l.client.isBroken)
    (hsession : l'.client.session = l.client.session)
    (hwaiting : ∀ w, l'.waiting = some w → l.waiting = some w ∨ w.number = l.asked.length)
    (hasked : l.asked <+: l'.asked) (htold : l.told <+: l'.told) : InStep l' where
  phase := hphase
  ended := hended
  told turn hturn hanswer := by
    rw [hturns] at hturn
    exact (h.told turn hturn hanswer).mono hasked htold
  fatal turn hturn hfatal := by
    rw [hturns] at hturn
    rw [hbroken, hsession]
    exact h.fatal turn hturn hfatal
  fresh w hw turn hturn hanswer := by
    rw [hturns] at hturn
    obtain hw | hnumber := hwaiting w hw
    · exact h.fresh w hw turn hturn hanswer
    · rw [hnumber]
      exact (h.told turn hturn hanswer).number_lt
  order := hturns ▸ h.order

/-- When a call comes to its end, it has to be said what the server has told, whether the
client has given up, and that one which had given up before has not done anything. -/
theorem InStep.of_turns_concat (h : InStep l) {turn : Turn} (hphase : Phase l')
    (hended : l'.isEnded = true → l'.isClosed = true ∧ l'.coming = [])
    (hturns : l'.turns = l.turns ++ [turn]) (hsession : turn.session = l'.client.session)
    (hwaiting : l'.waiting = none)
    (hnumber : ∀ earlier ∈ l.turns, isAnswer earlier.result = true → earlier.number < turn.number)
    (hasked : l.asked <+: l'.asked) (htold : l.told <+: l'.told)
    (hanswer : isAnswer turn.result = true → turn.Told l')
    (hfatal : IsFatal turn.result → l'.client.isBroken = true)
    (hbroken : l.client.isBroken = true →
      l'.client = l.client ∧ turn.result = .error .disconnected ∧ turn.sent = []) :
    InStep l' where
  phase := hphase
  ended := hended
  told := by
    rw [hturns, List.forall_mem_append, List.forall_mem_singleton]
    exact ⟨fun turn hturn hsaid => (h.told turn hturn hsaid).mono hasked htold, hanswer⟩
  fatal := by
    rw [hturns, List.forall_mem_append, List.forall_mem_singleton]
    refine ⟨fun turn hturn hfatal => ?_, fun hlast => ⟨hfatal hlast, hsession.symm⟩⟩
    have hbefore := h.fatal turn hturn hfatal
    rwa [(hbroken hbefore.1).1]
  fresh w hw := by cases hwaiting.symm.trans hw
  order := by
    rw [hturns, List.pairwise_append]
    refine ⟨h.order, List.pairwise_singleton _ _, fun earlier hearlier later hlater => ?_⟩
    rw [List.mem_singleton.mp hlater]
    refine ⟨hnumber earlier hearlier, fun hfatal => ?_⟩
    obtain ⟨hgone, hheld⟩ := h.fatal earlier hearlier hfatal
    obtain ⟨hclient, hresult, hsent⟩ := hbroken hgone
    exact ⟨hresult, hsent, by rw [hsession, hclient, hheld]⟩

/-! ## Each of the things that can happen -/

/-- **The stream moves on**: something arrives, or is lost, or the stream ends. -/
theorem InStep.of_stream (h : InStep l) {inbox coming : Bytes} {isClosed isEnded : Bool}
    (hstream : inbox ++ coming <+: l.client.inbox ++ l.coming)
    (hended : isEnded = true → isClosed = true ∧ coming = [])
    (hstill : l.isEnded = true → isEnded = true) :
    InStep { l with client := { l.client with inbox }, coming, isClosed, isEnded } := by
  have hnil : l.client.inbox = [] → l.coming = [] → inbox = [] ∧ coming = [] := by
    intro hinbox hcoming
    rw [hinbox, hcoming] at hstream
    exact List.append_eq_nil_iff.mp (List.prefix_nil.mp hstream)
  refine h.of_turns_eq ?_ hended rfl rfl rfl (fun _ => .inl) List.prefix_rfl List.prefix_rfl
  cases h.phase with
  | broken hbroken hwaiting => exact .broken hbroken hwaiting
  | gone hsound hend hinbox hseen =>
    exact .gone hsound (hstill hend) (hnil hinbox (h.ended hend).2).1 hseen
  | idle hsound hwaiting hpending hidle =>
    refine .idle hsound hwaiting hpending fun hwell => ?_
    obtain ⟨hinbox, hcoming, htold⟩ := hidle hwell
    obtain ⟨hinbox, hcoming⟩ := hnil hinbox hcoming
    exact ⟨hinbox, hcoming, htold⟩
  | waiting hwaits hawaits =>
    refine .waiting { hwaits with } fun hwell => ?_
    cases hawaits hwell with
    | asking hinbox hcoming htold =>
      obtain ⟨hinbox, hcoming⟩ := hnil hinbox hcoming
      exact .asking hinbox hcoming htold
    | answering htold hresponse hfront => exact .answering htold hresponse (hstream.trans hfront)

theorem InStep.call (h : InStep l) (call : Call) (wire : Except Net.SystemError Unit) :
    InStep (l.step (.call call wire)) := by
  unfold SlowLink.step
  dsimp only
  split
  · exact h
  rename_i hwaiting
  have hnumber : ∀ earlier ∈ l.turns, isAnswer earlier.result = true →
      earlier.number < l.asked.length := fun earlier hearlier hanswer =>
    (h.told earlier hearlier hanswer).number_lt
  cases hbroken : l.client.isBroken with
  | true =>
    rw [Client.send_of_isBroken hbroken]
    exact h.of_turns_concat (.broken hbroken hwaiting) h.ended rfl rfl hwaiting hnumber
      List.prefix_rfl List.prefix_rfl nofun nofun fun _ => ⟨rfl, rfl, rfl⟩
  | false =>
    have hsound : ∀ {P : Prop}, l.client.isBroken = true → P :=
      fun hgone => absurd hgone (Bool.eq_false_iff.mp hbroken)
    obtain ⟨error, hsend⟩ | ⟨bytes, -, hsend⟩ :=
      Client.send_of_not_isBroken hbroken wire call.request
    · rw [hsend]
      exact h.of_turns_concat (.broken rfl hwaiting) h.ended rfl rfl hwaiting hnumber
        List.prefix_rfl List.prefix_rfl nofun (fun _ => rfl) hsound
    · rw [hsend]
      refine h.of_turns_eq ?_ h.ended rfl rfl rfl (fun w hw => .inr (by cases hw; rfl))
        (List.prefix_append _ _) List.prefix_rfl
      cases h.phase with
      | broken hgone => exact hsound hgone
      | gone _ hended hinbox hseen => exact .gone hbroken hended hinbox hseen
      | idle _ _ hpending hidle =>
        refine .waiting ⟨hbroken, rfl, ?_, List.length_append, List.getElem?_concat_length⟩
          fun hwell => ?_
        · show l.client.pipeline.pending ++ [_] = _
          rw [hpending]
          rfl
        · obtain ⟨hinbox, hcoming, htold⟩ :=
            hidle (hwell.mono (Nat.le_refl _) (List.prefix_append _ _) List.prefix_rfl)
          exact .asking hinbox hcoming htold
      | waiting hwaits => cases hwaiting.symm.trans hwaits.waiting

theorem InStep.answer (h : InStep l) (response : Response) :
    InStep (l.step (.answer response)) := by
  unfold SlowLink.step
  dsimp only
  split
  · rename_i request hrequest
    have hlength := (List.getElem?_eq_some_iff.mp hrequest).1
    split
    · exact h
    · rename_i hopen
      have hclosed : ∀ {P : Prop}, l.isEnded = true → P :=
        fun hended => absurd (h.ended hended).1 hopen
      refine h.of_turns_eq ?_ hclosed rfl rfl rfl (fun _ => .inl) List.prefix_rfl
        (List.prefix_append _ _)
      have hbefore : ∀ {n : Nat}, WellAnswered { l with
          told := l.told ++ [response], coming := l.coming ++ response.encode } n →
          l.WellAnswered n := fun hwell =>
        hwell.mono (Nat.le_refl _) List.prefix_rfl (List.prefix_append _ _)
      cases h.phase with
      | broken hbroken hwaiting => exact .broken hbroken hwaiting
      | gone _ hended => exact hclosed hended
      | idle hsound hwaiting hpending hidle =>
        refine .idle hsound hwaiting hpending fun hwell => ?_
        obtain ⟨-, -, htold⟩ := hidle (hbefore hwell)
        omega
      | waiting hwaits hawaits =>
        refine .waiting { hwaits with } fun hwell => ?_
        cases hawaits (hbefore hwell) with
        | asking hinbox hcoming htold =>
          have hresponse : (l.told ++ [response])[l.told.length]? = some response :=
            List.getElem?_concat_length
          refine .answering ?_ (htold ▸ hresponse) ?_
          · rw [List.length_append, htold]
            rfl
          · rw [hinbox, hcoming]
            exact List.prefix_rfl
        | answering htold =>
          have hasked := hwaits.asked
          omega
  · exact h

theorem conclude_eq (l : SlowLink) (w : Waiting) (n : Nat) :
    let ended := l.client.await w.call (l.coming.take n) l.isEnded
    l.conclude w n
      = { l with client := ended.2, waiting := none, coming := l.coming.drop n
                 turns := l.turns ++ [{ w with result := ended.1, session := ended.2.session }] } :=
  rfl

/-- **What is read while a call waits is the response to it**, which then has come as a
whole, if all has been well so far. If it is a document for which nobody has asked, then
the word `success` is read, which does not answer the call. -/
theorem Awaits.of_scan (h : l.Awaits w) (hwaits : l.Waits w) (hwell : l.WellAnswered w.number)
    {n : Nat} {read : Response} {rest : Bytes}
    (hscan : Response.scan w.call.request.expect (l.client.inbox ++ l.coming.take n)
      = .done read rest) :
    (∃ response, l.told[w.number]? = some response ∧ read = response.received ∧ rest = []
        ∧ l.coming.drop n = [] ∧ l.told.length = w.number + 1)
      ∨ read = .success ∧ w.call.accept .success = none := by
  cases h with
  | asking hinbox hcoming =>
    rw [hinbox, hcoming, List.take_nil] at hscan
    cases hscan
  | @answering response htold hresponse hfront =>
    obtain ⟨lost, hlost⟩ := hfront
    have hfront : l.client.inbox ++ l.coming.take n ++ (l.coming.drop n ++ lost)
        = response.encode := by
      rw [List.append_assoc, ← List.append_assoc (l.coming.take n), List.take_append_drop,
        ← List.append_assoc, hlost]
    have hanswer : response.canAnswer w.call.request = true :=
      hwell w.number (Nat.le_refl _) _ hwaits.request _ hresponse
    refine (Response.eq_of_scan_front hanswer hfront hscan).imp_left fun ⟨hread, hrest, hback⟩ => ?_
    exact ⟨response, hresponse, hread, hrest, (List.append_eq_nil_iff.mp hback).1, htold⟩

/-- **How the call that waits comes to its end.** -/
theorem InStep.await (h : InStep l) (hwaiting : l.waiting = some w) (n : Nat) :
    let ended := l.client.await w.call (l.coming.take n) l.isEnded
    l.client.isBroken = false
      ∧ (Client.GaveUp ended
        ∨ (l.isEnded = true ∧ ended = (.error .disconnected, { l.client with inbox := [] }))
        ∨ isAnswer ended.1 = true
          ∧ Turn.Told l { w with result := ended.1, session := ended.2.session }
          ∧ ∃ session inbox, ended.2 = { l.client with session, inbox, pipeline := {} }
            ∧ (l.WellAnswered w.number →
              inbox = [] ∧ l.coming.drop n = [] ∧ l.told.length = l.asked.length)) := by
  cases h.phase with
  | broken _ hnone => cases hwaiting.symm.trans hnone
  | gone hsound hend hinbox =>
    have hmore : Response.scan l.client.pipeline.expected (l.client.inbox ++ l.coming.take n)
        = .more := by
      rw [hinbox, (h.ended hend).2, List.take_nil]
      rfl
    exact ⟨hsound, (Client.await_of_more hmore _).imp_right .inl⟩
  | idle _ hnone => cases hwaiting.symm.trans hnone
  | waiting hwaits hawaits =>
    cases hwaiting.symm.trans hwaits.waiting
    refine ⟨hwaits.sound, ?_⟩
    obtain hgone | hended | ⟨read, rest, hscan, htells⟩ :=
      Client.await_cases hwaits.pending l.isEnded
    · exact .inl hgone
    · exact .inr (.inl hended)
    · rw [htells]
      refine (Client.told_cases _ w.call read).imp_right fun ⟨hsaid, session, hclient⟩ => .inr ?_
      have hread : l.WellAnswered w.number → ∃ response, l.told[w.number]? = some response
          ∧ read = response.received ∧ rest = [] ∧ l.coming.drop n = []
          ∧ l.told.length = w.number + 1 := by
        intro hwell
        refine ((hawaits hwell).of_scan hwaits hwell hscan).resolve_right ?_
        rintro ⟨hsuccess, hnone⟩
        rw [hsuccess, Client.told_success hnone] at hsaid
        cases hsaid
      refine ⟨hsaid, ⟨hwaits.request, fun hwell => ?_⟩, session, rest, hclient, fun hwell => ?_⟩
      · obtain ⟨response, hresponse, rfl, -⟩ := hread hwell
        exact ⟨response, hresponse, fun c => Client.told_fst _ c w.call response.received⟩
      · obtain ⟨response, -, -, hrest, hcoming, htold⟩ := hread hwell
        exact ⟨hrest, hcoming, htold.trans hwaits.asked.symm⟩

/-- The call that waits comes to its end. -/
theorem InStep.conclude (h : InStep l) (hwaiting : l.waiting = some w) (n : Nat) :
    InStep (l.conclude w n) := by
  have hended : l.isEnded = true → l.isClosed = true ∧ l.coming.drop n = [] := fun hend =>
    ⟨(h.ended hend).1, by rw [(h.ended hend).2, List.drop_nil]⟩
  obtain ⟨hsound, hends⟩ := h.await hwaiting n
  have hbroken : ∀ {P : Prop}, l.client.isBroken = true → P :=
    fun hgone => absurd hgone (Bool.eq_false_iff.mp hsound)
  have hnumber := h.fresh w hwaiting
  rw [conclude_eq]
  obtain ⟨hfatal, hgone⟩ | ⟨hend, hawait⟩ | ⟨hsaid, htold, session, inbox, hclient, hwell⟩ := hends
  · exact h.of_turns_concat (.broken hgone rfl) hended rfl rfl rfl hnumber List.prefix_rfl
      List.prefix_rfl (fun hanswer => (hfatal.not_isAnswer hanswer).elim) (fun _ => hgone) hbroken
  · rw [hawait]
    exact h.of_turns_concat (.gone hsound hend rfl ⟨_, List.mem_concat_self, rfl⟩) hended rfl rfl
      rfl hnumber List.prefix_rfl List.prefix_rfl nofun nofun hbroken
  · have hlength := (List.getElem?_eq_some_iff.mp htold.1).1
    rw [hclient] at htold ⊢
    refine h.of_turns_concat (.idle hsound rfl rfl fun hall => ?_) hended rfl rfl rfl hnumber
      List.prefix_rfl List.prefix_rfl (fun _ => htold)
      (fun hfatal => (hfatal.not_isAnswer hsaid).elim) hbroken
    exact hwell (WellAnswered.mono hall (Nat.le_of_lt hlength) List.prefix_rfl List.prefix_rfl)

theorem InStep.arrive (h : InStep l) (n : Nat) : InStep (l.step (.arrive n)) := by
  unfold SlowLink.step
  dsimp only
  split
  · rename_i hwaiting _
    exact h.conclude hwaiting n
  · rename_i hwaiting _
    exact h.conclude hwaiting n
  · have hstream : l.client.inbox ++ l.coming.take n ++ l.coming.drop n
        = l.client.inbox ++ l.coming := by rw [List.append_assoc, List.take_append_drop]
    refine h.of_stream (hstream ▸ List.prefix_rfl)
      (fun hended => (h.ended hended).imp_right fun hcoming => ?_) id
    rw [hcoming, List.drop_nil]

theorem InStep.close (h : InStep l) (n : Nat) : InStep (l.step (.close n)) := by
  unfold SlowLink.step
  dsimp only
  split
  · exact h
  · refine h.of_stream ?_ (fun hended => ⟨rfl, ?_⟩) id
    · exact (List.prefix_append_right_inj _).mpr (List.take_prefix _ _)
    · rw [(h.ended hended).2, List.take_nil]

theorem InStep.arriveEnd (h : InStep l) : InStep (l.step .arriveEnd) := by
  unfold SlowLink.step
  dsimp only
  split
  · rename_i hend
    have hended : InStep { l with isEnded := true } :=
      h.of_stream List.prefix_rfl (fun _ => hend) fun _ => rfl
    split
    · rename_i hwaiting
      exact hended.conclude hwaiting 0
    · exact hended
  · exact h

/-- **Whatever happens, this stays true.** -/
theorem InStep.step (h : InStep l) (event : Event) : InStep (l.step event) := by
  cases event with
  | call call wire => exact h.call call wire
  | answer response => exact h.answer response
  | arrive n => exact h.arrive n
  | close n => exact h.close n
  | arriveEnd => exact h.arriveEnd
  | expire =>
    unfold SlowLink.step
    dsimp only
    split
    · rename_i w hwaiting
      exact h.conclude hwaiting 0
    · exact h

/-- So it is true of all that can happen. -/
theorem inStep_run (patience : Span) (events : List Event) :
    InStep (run { client := { patience } } events) :=
  List.foldlRecOn events step (inStep_start patience) fun _ h event _ => h.step event

/-- **A client never takes a late answer for the next one**, whatever the delays are, as long
as no post is answered with a document. What a call is told by the server is what the server
has said to the request of that call, and to that of no other call, if no post up to then has
been answered with a document. (Of such an answer only the word `success` would be read, and
the rest of it after the next request.) Whatever the answers are, once a client has given up,
it sends nothing, and every call finds the connection gone and leaves the session that is
held. Otherwise nothing is on its way between two calls, unless the client has found the
stream at its end. -/
theorem turns_of_run (patience : Span) (events : List Event) :
    let l := run { client := { patience } } events
    (∀ turn ∈ l.turns, isAnswer turn.result = true →
        l.asked[turn.number]? = some turn.call.request
          ∧ (l.WellAnswered turn.number → ∃ response, l.told[turn.number]? = some response
            ∧ ∀ c : Client, turn.result = (c.told turn.call response.received).1))
      ∧ (l.turns.Pairwise fun earlier later =>
        (isAnswer earlier.result = true → earlier.number < later.number)
          ∧ (IsFatal earlier.result → later.result = .error .disconnected ∧ later.sent = []
            ∧ later.session = earlier.session))
      ∧ (l.waiting = none → l.client.isBroken = false →
        (∀ turn ∈ l.turns, turn.result ≠ .error .disconnected) →
        l.client.pipeline.pending = []) := by
  intro l
  have h : InStep l := inStep_run patience events
  refine ⟨h.told, h.order, fun hwaiting hsound hseen => ?_⟩
  cases h.phase with
  | broken hbroken => exact absurd hbroken (Bool.eq_false_iff.mp hsound)
  | gone _ _ _ hend =>
    obtain ⟨turn, hturn, hend⟩ := hend
    exact absurd hend (hseen turn hturn)
  | idle _ _ hpending => exact hpending
  | waiting hwaits => cases hwaiting.symm.trans hwaits.waiting

/-- A call that is answered in two pieces, and one that is given up when its answer has
come in part. The rest comes later, and nothing is made of it. -/
theorem turns_of_run_after_timeout :
    let l := run { client := { patience := .ofSeconds 5 } }
      [.call .openSession (.ok ()), .answer (.accepted 7), .arrive 10, .arrive 10,
        .call (.get "a") (.ok ()), .answer (.document "a" "x"), .arrive 10, .expire,
        .arrive 10, .call (.get "b") (.ok ())]
    l.turns.map (fun turn => (turn.result, turn.sent, turn.session))
        = [(.ok (.session 7), utf8 "open\n", some 7),
          (.error (.timeout (.ofSeconds 5)), utf8 "get\na\n", some 7),
          (.error .disconnected, [], some 7)]
      ∧ l.told = [.accepted 7, .document "a" "x"]
      ∧ ∃ turn ∈ l.turns, isAnswer turn.result = true ∧ l.WellAnswered turn.number
        ∧ ∃ response, l.told[turn.number]? = some response
          ∧ ∀ c : Client, turn.result = (c.told turn.call response.received).1 := by
  intro l
  obtain ⟨turn, hturn, hanswer, hwell⟩ : ∃ turn ∈ l.turns,
      isAnswer turn.result = true ∧ l.WellAnswered turn.number := by
    decide
  obtain ⟨htold, -⟩ := turns_of_run (.ofSeconds 5) [.call .openSession (.ok ()),
    .answer (.accepted 7), .arrive 10, .arrive 10, .call (.get "a") (.ok ()),
    .answer (.document "a" "x"), .arrive 10, .expire, .arrive 10, .call (.get "b") (.ok ())]
  exact ⟨by decide, by decide, turn, hturn, hanswer, hwell, (htold turn hturn hanswer).2 hwell⟩

/-- **A document in answer to a post**, of which the client reads the word `success`. The
rest reads like a session that is opened, and so it is taken for the answer to a request
that the server has not answered at all. -/
theorem document_taken_for_next :
    let l := run { client := { patience := .ofSeconds 5 } }
      [.call (.post "a" "x") (.ok ()), .answer (.document "accepted" "7\n"), .arrive 100,
        .call .openSession (.ok ()), .arrive 0]
    l.asked = [.post "a" "x", .openSession] ∧ l.told = [.document "accepted" "7\n"]
      ∧ l.turns.map (fun turn => (turn.number, turn.result))
        = [(0, .ok .done), (1, .ok (.session 2))]
      ∧ ¬∀ turn ∈ l.turns, isAnswer turn.result = true →
        ∃ response, l.told[turn.number]? = some response
          ∧ ∀ c : Client, turn.result = (c.told turn.call response.received).1 := by
  intro l
  refine ⟨by decide, by decide, by decide, fun hall => ?_⟩
  -- there is no response to the second request
  obtain ⟨turn, hturn, hanswer, hnone⟩ : ∃ turn ∈ l.turns,
      isAnswer turn.result = true ∧ l.told[turn.number]? = none := by
    decide
  obtain ⟨response, hsome, -⟩ := hall turn hturn hanswer
  cases hnone.symm.trans hsome

end SlowLink

end Moorings.Session
