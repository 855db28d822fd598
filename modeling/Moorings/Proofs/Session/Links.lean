import Moorings.Session.Server
import Moorings.Proofs.Session.Answering
import Moorings.Proofs.Session.WholeStream

/-!
# A connection between calls

A call of a client goes through many hands: the client writes a request, the server
reads it, handles it and writes a response, and the client reads the response. Between
two calls a link is *at rest* (`Link.atRest`): nothing is on its way in either
direction, and the two ends agree about the session that is held. Or it is *lost*
(`Link.IsLost`): the client has given up, or the server has, and then no call on it
goes well any more. Whatever calls are made, a link is one or the other
(`Link.Reached.isLost_or_atRest`).

On a link at rest a call comes down to one request handled (`Link.call_of_answered`),
or is refused by one of the two ends.
-/

namespace Moorings.Session

namespace Serving

variable {c : Connection} {d : Directory} {bytes : Bytes}

/-- One request received is answered. -/
theorem receive_of_done {request : Request} (h : Request.scan bytes = .done request [])
    (hvalid : ∀ line, request ≠ .invalid line) :
    ({ connection := c } : Serving).receive d bytes
      = ((c.handle d request).1.response.encode, { connection := (c.handle d request).2.1 },
        (c.handle d request).2.2) := by
  have hmore : Request.scan [] = .more := rfl
  show answer _ d (Request.drain bytes) = _
  rw [Request.drain, Scan.drain_of_done h, Scan.drain_of_more hmore,
    answer_of_not_isLast (Connection.isLast_handle c d hvalid)]
  exact congrArg (·, _) (List.append_nil _)

/-- What is not legible ends the serving. -/
theorem receive_of_fail {error : ProtocolError} (h : Request.scan bytes = .fail error) :
    ({ connection := c } : Serving).receive d bytes
      = (refusalBytes, { connection := c, buffer := bytes, isOver := true }, d) := by
  show answer _ d (Request.drain bytes) = _
  rw [Request.drain, Scan.drain_of_fail h, answer_of_error (Request.blamesBytes_scan h)]

end Serving

namespace Client

variable {c c' : Client} {call : Call} {request : Request}

/-- **What may come of the first half of a call**: the client has given up, or the
request is on its way. -/
theorem send_cases (c : Client) (wire : Except Net.SystemError Unit) (request : Request) :
    (∃ error client, c.send wire request = (.error error, client) ∧ client.isBroken = true)
      ∨ c.isBroken = false
        ∧ ∃ bytes pipeline, c.send wire request = (.ok bytes, { c with pipeline }) := by
  unfold send
  split
  · rename_i hbroken
    exact .inl ⟨_, _, rfl, hbroken⟩
  · rename_i hbroken
    split
    · exact .inl ⟨_, _, rfl, rfl⟩
    · exact .inl ⟨_, _, rfl, rfl⟩
    · exact .inr ⟨Bool.eq_false_iff.mpr hbroken, _, _, rfl⟩

theorem send_of_ok {bytes : Bytes} (hbroken : c.isBroken = false)
    (h : request.encode = .ok bytes) :
    c.send (.ok ()) request
      = (.ok bytes,
        { c with pipeline := { pending := c.pipeline.pending ++ [request.expect] } }) := by
  unfold send
  rw [if_neg (Bool.eq_false_iff.mp hbroken), Pipeline.send_eq_ok_iff.mpr ⟨h, rfl⟩]

theorem send_of_error {error : ProtocolError} (hbroken : c.isBroken = false)
    (h : request.encode = .error error) (wire : Except Net.SystemError Unit) :
    c.send wire request = (.error (.protocol error), c.giveUp) := by
  have hsend : c.pipeline.send request = .error error := by rw [Pipeline.send, h]; rfl
  unfold send
  rw [if_neg (Bool.eq_false_iff.mp hbroken), hsend]

/-- **What a client makes of a response**: the result of its call, and the client
after it. -/
def told (c : Client) (call : Call) : Response → Except ClientError Result × Client
  | .rejected reason => (.error (.rejected reason), c)
  | .error text => (.error (.server text), c)
  | response =>
    match call.accept response with
    | some result => (.ok result, c.remember result)
    | none => (.error (.protocol (.unexpectedResponse response.shown)), c.giveUp)

/-- A document answers a get if its name is the one that was asked for. -/
theorem told_document (c : Client) (name returned content : String) :
    c.told (.get name) (.document returned content)
      = if returned = name then (.ok (.content content), c)
        else (.error (.protocol (.unexpectedResponse (Response.document returned content).shown)),
          c.giveUp) := by
  show (match if returned = name then some (Result.content content) else none with
    | some result => (Except.ok result, c.remember result)
    | none => (Except.error (ClientError.protocol (.unexpectedResponse _)), c.giveUp)) = _
  by_cases h : returned = name
  · rw [if_pos h, if_pos h]
    rfl
  · rw [if_neg h, if_neg h]

theorem await_of_ok {arriving : Bytes} {isEnded : Bool} {response : Response}
    (h : c.receive arriving isEnded = (.ok response, c')) :
    c.await call arriving isEnded = c'.told call response := by
  unfold await
  rw [h]
  cases response <;> rfl

theorem await_of_error {arriving : Bytes} {isEnded : Bool} {error : ClientError}
    (h : c.receive arriving isEnded = (.error error, c')) :
    c.await call arriving isEnded = (.error error, c') := by
  unfold await
  rw [h]

theorem receive_of_done {arriving rest : Bytes} {isEnded : Bool} {response : Response}
    {pipeline : Pipeline}
    (h : c.pipeline.receive isEnded (c.inbox ++ arriving) = (.done response rest, pipeline)) :
    c.receive arriving isEnded = (.ok response, { c with pipeline, inbox := rest }) := by
  unfold receive
  dsimp only
  rw [h]

theorem receive_of_fail {arriving : Bytes} {isEnded : Bool} {error : ProtocolError}
    {pipeline : Pipeline}
    (h : c.pipeline.receive isEnded (c.inbox ++ arriving) = (.fail error, pipeline)) :
    c.receive arriving isEnded
      = (.error (.protocol error), { c with inbox := c.inbox ++ arriving, isBroken := true }) := by
  unfold receive
  dsimp only
  rw [h]
  rfl

section Waiting

variable (patience : Span) (session : Option UInt64) (call : Call) (isEnded : Bool)
  {expect : Expect} {response : Response}

/-- **A response within the limits is told** to the client that waits for it. -/
theorem await_encode (hmeant : response.MeantBy expect) (hfits : response.fits = true) :
    ({ patience, session, pipeline := { pending := [expect] } } : Client).await call
        response.encode isEnded
      = ({ patience, session } : Client).told call response.received :=
  await_of_ok (receive_of_done
    (Pipeline.receive_encode (p := { pending := [expect] }) hmeant hfits isEnded))

/-- One beyond the limits makes it give up. -/
theorem await_encode_of_not_fits (hmeant : response.MeantBy expect)
    (hfits : response.fits = false) :
    ∃ error client, ({ patience, session, pipeline := { pending := [expect] } } : Client).await
        call response.encode isEnded = (.error error, client) ∧ client.isBroken = true := by
  obtain ⟨error, hreceive⟩ :=
    Pipeline.receive_encode_of_not_fits (p := { pending := [expect] }) hmeant hfits isEnded
  exact ⟨_, _, await_of_error (receive_of_fail hreceive), rfl⟩

/-- A client whose call goes well has been told. -/
theorem await_encode_of_ok {result : Result} (hmeant : response.MeantBy expect)
    (hok : (({ patience, session, pipeline := { pending := [expect] } } : Client).await call
      response.encode isEnded).1 = .ok result) :
    (({ patience, session } : Client).told call response.received).1 = .ok result := by
  cases hfits : response.fits with
  | false =>
    obtain ⟨error, client, hawait, -⟩ :=
      await_encode_of_not_fits patience session call isEnded hmeant hfits
    rw [hawait] at hok
    cases hok
  | true => rwa [await_encode patience session call isEnded hmeant hfits] at hok

end Waiting

/-- At the end of the stream there is no answer. -/
theorem await_nil (call : Call) (h : c.inbox = []) :
    c.await call [] true = (.error .disconnected, c) := by
  refine await_of_error ?_
  obtain ⟨patience, pipeline, inbox, session, isBroken⟩ := c
  obtain rfl : inbox = [] := h
  rfl

end Client

namespace Call

/-- What a call asks for is a request. -/
theorem request_ne_invalid (call : Call) (line : String) : call.request ≠ .invalid line := by
  cases call <;> exact Request.noConfusion

theorem received_request_ne_invalid (call : Call) (line : String) :
    call.request.received ≠ .invalid line := by
  cases call <;> exact Request.noConfusion

end Call

namespace Link

/-! ## A link at rest -/

/-- **A link at rest**: nothing is on its way in either direction, and both ends know
of the same session. -/
def atRest (patience : Span) (session : Option UInt64) : Link where
  client := { patience, session }
  serving := { connection := { held := session } }

/-- **A link that is lost**: the client has given up, or the server has and has no
more to say. -/
def IsLost (link : Link) : Prop :=
  link.client.isBroken = true ∨ link.serving.isOver = true ∧ link.client.inbox = []

theorem not_isLost_atRest (patience : Span) (session : Option UInt64) :
    ¬(atRest patience session).IsLost := by
  rintro (h | ⟨h, -⟩) <;> cases h

section Send

variable {link : Link} {d : Directory} {call : Call} {client : Client}

/-- Whether the connection still takes what is sent. -/
def wire (link : Link) : Except Net.SystemError Unit :=
  if link.isReset then .error .brokenPipe else .ok ()

/-- A call that sends nothing. -/
theorem call_of_send_error {error : ClientError}
    (h : link.client.send link.wire call.request = (.error error, client)) :
    link.call d call = (.error error, { link with client }, d) := by
  unfold Link.call
  dsimp only
  rw [wire] at h
  rw [h]

/-- A call that sends something. -/
theorem call_of_send (d : Directory) {sent : Bytes}
    (h : link.client.send link.wire call.request = (.ok sent, client)) :
    let served := link.serving.receive d sent
    let awaited := client.await call served.1 served.2.1.isOver
    link.call d call
      = (awaited.1, { client := awaited.2, serving := served.2.1, isReset := link.serving.isOver },
        served.2.2) := by
  unfold Link.call
  dsimp only
  rw [wire] at h
  rw [h]

end Send

section AtRest

variable (patience : Span) (session : Option UInt64) (d : Directory) {call : Call}
  {bytes : Bytes}

/-- A request that cannot be written makes the client give up. -/
theorem call_of_encode_error {error : ProtocolError} (h : call.request.encode = .error error) :
    (atRest patience session).call d call
      = (.error (.protocol error),
        { atRest patience session with client := { patience, session, isBroken := true } }, d) :=
  call_of_send_error (Client.send_of_error rfl h _)

/-- **A call on a link at rest** is one request handled, if what is received of it is
legible. -/
theorem call_of_answered (h : call.request.encode = .ok bytes)
    (hfits : call.request.fits = true) :
    let answered := ({ held := session } : Connection).handle d call.request.received
    let awaited := ({ patience, session, pipeline := { pending := [call.request.expect] } } :
      Client).await call answered.1.response.encode false
    (atRest patience session).call d call
      = (awaited.1, { client := awaited.2, serving := { connection := answered.2.1 } },
        answered.2.2) := by
  have hscan := Request.scan_encode call.request_ne_invalid h []
  rw [List.append_nil, if_pos hfits] at hscan
  have hreceive : (atRest patience session).serving.receive d bytes = _ :=
    Serving.receive_of_done hscan call.received_request_ne_invalid
  have hsend : (atRest patience session).client.send (atRest patience session).wire call.request
      = _ := Client.send_of_ok rfl h
  have hcall := call_of_send d hsend
  rw [hreceive] at hcall
  exact hcall

/-- **If it is not legible**, the server refuses it and is gone. -/
theorem call_of_not_fits (h : call.request.encode = .ok bytes)
    (hfits : call.request.fits = false) :
    (atRest patience session).call d call
      = (.error (.server invalidCommand),
        { client := { patience, session },
          serving := { connection := { held := session }, buffer := bytes, isOver := true } },
        d) := by
  have hscan := Request.scan_encode call.request_ne_invalid h []
  rw [List.append_nil, if_neg (Bool.eq_false_iff.mp hfits)] at hscan
  have hreceive : (atRest patience session).serving.receive d bytes = _ :=
    Serving.receive_of_fail hscan
  have hsend : (atRest patience session).client.send (atRest patience session).wire call.request
      = _ := Client.send_of_ok rfl h
  have hcall := call_of_send d hsend
  rw [hreceive] at hcall
  have hawait : ({ patience, session, pipeline := { pending := [call.request.expect] } } :
      Client).await call refusalBytes true
      = (.error (.server invalidCommand), { patience, session }) :=
    Client.await_encode patience session call true trivial (by decide)
  refine hcall.trans (congrArg (fun awaited : Except ClientError Result × Client =>
    (awaited.1, ({ client := awaited.2, serving := _ } : Link), d)) hawait)

/-! ## Both ends agree -/

/-- A client that is told what has happened knows what its connection holds, unless it
gives up. -/
theorem told_of_happens {h h' : Hub} {number : Nat} {response : Response}
    (hh : h.Happens number call.request.received response h') :
    let told := ({ patience, session := h.held number } : Client).told call response.received
    told.2.isBroken = true ∨ told.2 = { patience, session := h'.held number } := by
  cases call with
  | openSession =>
    change h.Happens number .openSession response h' at hh
    cases hh with
    | opened =>
      rw [Hub.held_after, if_pos rfl]
      exact .inr rfl
    | refused => exact .inr rfl
  | resume id =>
    change h.Happens number (.resume id) response h' at hh
    cases hh with
    | resumed =>
      rw [Hub.held_after, if_pos rfl]
      exact .inr rfl
    | rejected => exact .inr rfl
    | refused => exact .inr rfl
  | close id =>
    change h.Happens number (.close id) response h' at hh
    cases hh with
    | closed =>
      -- both ends let go of the session on the same condition
      rw [Hub.held_after, if_pos rfl]
      refine .inr ?_
      show (if h.held number = some id then ({ patience, session := none } : Client)
        else { patience, session := h.held number }) = _
      split <;> rfl
    | refused => exact .inr rfl
  | get name =>
    change h.Happens number (.get (received name)) response h' at hh
    cases hh with
    | read =>
      rw [Response.received, Client.told_document]
      split
      · exact .inr rfl
      · exact .inl rfl
    | refused => exact .inr rfl
  | post name content =>
    change h.Happens number (.post (received name) content) response h' at hh
    cases hh with
    | kept hheld =>
      rw [Hub.held_after, if_pos rfl, ← hheld]
      exact .inr rfl
    | refused => exact .inr rfl

/-- The response to a call means what its client expects. -/
theorem meantBy_answered (call : Call) :
    (({ held := session } : Connection).handle d call.request.received).1.response.MeantBy
      call.request.expect := by
  have hexpect : call.request.received.expect = call.request.expect := by cases call <;> rfl
  rw [← hexpect]
  exact Connection.meantBy_handle _ _ _

/-- **What becomes of a link at rest**: it is lost at a call, or at rest again with
what its connection holds then. -/
theorem isLost_or_eq_atRest (call : Call) :
    ((atRest patience session).call d call).2.1.IsLost
      ∨ ((atRest patience session).call d call).2.1
        = atRest patience
          (({ held := session } : Connection).handle d call.request.received).2.1.held := by
  cases hencode : call.request.encode with
  | error error =>
    rw [call_of_encode_error _ _ _ hencode]
    exact .inl (.inl rfl)
  | ok bytes =>
    cases hfits : call.request.fits with
    | false =>
      rw [call_of_not_fits _ _ _ hencode hfits]
      exact .inl (.inr ⟨rfl, rfl⟩)
    | true =>
      have hmeant := meantBy_answered session d call
      rw [call_of_answered _ _ _ hencode hfits]
      dsimp only
      cases hresponse : (({ held := session } : Connection).handle d
          call.request.received).1.response.fits with
      | false =>
        obtain ⟨error, client, hawait, hbroken⟩ :=
          Client.await_encode_of_not_fits patience session call false hmeant hresponse
        rw [hawait]
        exact .inl (.inl hbroken)
      | true =>
        rw [Client.await_encode patience session call false hmeant hresponse]
        have htold := told_of_happens patience (Hub.happens_handle
          { directory := d, connections := fun _ => { held := session } } 0
          call.request.received)
        obtain hbroken | hknows := htold
        · exact .inl (.inl hbroken)
        · exact .inr (congrArg (fun client => ({ client, serving := _ } : Link)) hknows)

end AtRest

/-! ## Links that are lost -/

/-- **A link that is lost stays lost**, and no call on it goes well. -/
theorem IsLost.call {link : Link} (h : link.IsLost) (d : Directory) (call : Call) :
    (link.call d call).2.1.IsLost ∧ ∀ result, (link.call d call).1 ≠ .ok result := by
  obtain ⟨error, client, hsend, hbroken⟩ | ⟨hbroken, sent, pipeline, hsend⟩ :=
    link.client.send_cases link.wire call.request
  · rw [call_of_send_error hsend]
    exact ⟨.inl hbroken, fun _ e => by cases e⟩
  · -- it is the server that has gone, and says nothing
    obtain hgone | ⟨hover, hinbox⟩ := h
    · exact absurd hgone (Bool.eq_false_iff.mp hbroken)
    · have hserved : link.serving.receive d sent = ([], link.serving, d) := if_pos hover
      have hawait := Client.await_nil (c := { link.client with pipeline }) call hinbox
      have hcall := call_of_send d hsend
      rw [hserved] at hcall
      dsimp only at hcall
      rw [hover, hawait] at hcall
      rw [hcall]
      exact ⟨.inr ⟨hover, hinbox⟩, fun _ e => by cases e⟩

/-! ## Every link -/

/-- **A link after some calls**, from when it is made on. Between two calls the
directory may be changed by whoever else is connected. -/
inductive Reached : Link → Prop
  /-- The connection has been made. -/
  | made (patience : Span) : Reached { client := { patience } }
  /-- Another call has been made on it. -/
  | called {link : Link} (h : Reached link) (d : Directory) (call : Call) :
    Reached (link.call d call).2.1

/-- **A link is lost or at rest** after whatever calls. -/
theorem Reached.isLost_or_atRest {link : Link} (h : link.Reached) :
    link.IsLost ∨ ∃ patience session, link = atRest patience session := by
  induction h with
  | made patience => exact .inr ⟨patience, none, rfl⟩
  | called h d call ih =>
    obtain hlost | ⟨patience, session, rfl⟩ := ih
    · exact .inl (hlost.call d call).1
    · obtain hlost | hrest := isLost_or_eq_atRest patience session d call
      · exact .inl hlost
      · exact .inr ⟨_, _, hrest⟩

/-- A call that goes well is made on a link at rest. -/
theorem Reached.eq_atRest {link : Link} (h : link.Reached) {d : Directory} {call : Call}
    {result : Result} (hok : (link.call d call).1 = .ok result) :
    ∃ patience, link = atRest patience link.client.session := by
  obtain hlost | ⟨patience, session, rfl⟩ := h.isLost_or_atRest
  · exact absurd hok ((hlost.call d call).2 result)
  · exact ⟨patience, rfl⟩

end Link

namespace Server

variable {s : Server} (patience : Span)

/-- A step leaves every link one that has been reached. -/
theorem reached_step (h : ∀ entry ∈ s.links, entry.2.Reached) (step : Step) :
    ∀ entry ∈ (s.step patience step).2.links, entry.2.Reached := by
  have hwithout : ∀ number, ∀ entry ∈ (s.without number).links, entry.2.Reached :=
    fun number entry hentry => h entry (List.mem_of_mem_filter hentry)
  cases step with
  | call number call =>
    have hlink : ((s.link? number).getD { client := { patience } }).Reached := by
      cases hfound : s.link? number with
      | none => exact .made patience
      | some link =>
        obtain ⟨entry, hentry, rfl⟩ := Option.map_eq_some_iff.mp hfound
        exact h entry (List.mem_of_find?_eq_some hentry)
    intro entry hentry
    obtain rfl | hentry := List.mem_cons.mp hentry
    · exact hlink.called s.directory call
    · exact hwithout number entry hentry
  | disconnect number =>
    show ∀ entry ∈ (s.disconnect number).links, _
    unfold disconnect
    split
    · exact h
    · exact hwithout number

/-- **Every link of a server** is one that has been reached, whatever its clients have
done. -/
theorem reached_run (h : ∀ entry ∈ s.links, entry.2.Reached) (steps : List Step) :
    ∀ entry ∈ (s.run patience steps).2.links, entry.2.Reached := by
  induction steps generalizing s with
  | nil => exact h
  | cons step steps ih => exact ih (reached_step patience h step)

end Server

end Moorings.Session
