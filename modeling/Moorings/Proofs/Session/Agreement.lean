import Moorings.Proofs.Session.Delays

/-!
# What both ends know of a session

The server knows which session a connection holds from what it has done, and the client
only from what it has been told. Each has its own rules: the server goes by the request,
the state of the connection and the directory, the client by its call and the response.

`Duplex` is a connection with both its ends and whatever is on its way between them, in
either direction and with whatever delays. `SlowServer` are any number of them on one
directory, so while a call of one client is on its way, the others may do anything. The
two ends agree whenever the client is not waiting, unless one of them has given up
(`SlowServer.session_eq_held`).

While it is waiting they may not, since the server has done what the client will be
told. `Duplex.Agrees` says how far a call has come: the request arrives and is kept until
it is whole, and then it is the response that arrives.
-/

namespace Moorings.Session

namespace Request

/-- **What can be read of the front of a request** is the request, and then it has come as
a whole. -/
theorem eq_of_scan_front {call : Call} {request : Request} {front back rest : Bytes}
    (hencode : call.request.encode = .ok (front ++ back))
    (hscan : scan front = .done request rest) :
    request = call.request.received ∧ rest = [] ∧ back = [] := by
  have hwhole := scan_encode call.request_ne_invalid hencode []
  rw [List.append_nil, stable_scan.done hscan back] at hwhole
  split at hwhole
  · obtain ⟨hrequest, hrest⟩ := Reading.done.inj hwhole
    exact ⟨hrequest, List.append_eq_nil_iff.mp hrest⟩
  · cases hwhole

end Request

namespace Serving

variable {c : Connection} {d : Directory} {front piece : Bytes}

/-- What arrives of a request is kept until there is enough of it. -/
theorem receive_of_more (h : Request.scan (front ++ piece) = .more) :
    ({ connection := c, buffer := front } : Serving).receive d piece
      = ([], { connection := c, buffer := front ++ piece }, d) := by
  show answer _ d (Request.drain (front ++ piece)) = _
  rw [Request.drain, Scan.drain_of_more h]
  rfl

/-- When nothing arrives, nothing happens. -/
theorem receive_nil (c : Connection) (d : Directory) :
    ({ connection := c } : Serving).receive d [] = ([], { connection := c }, d) :=
  @receive_of_more c d [] [] rfl

/-- A serving that is over stays over. -/
theorem isOver_receive {s : Serving} (h : s.isOver = true) (d : Directory) (piece : Bytes) :
    (s.receive d piece).2.1.isOver = true := by
  rw [receive, if_pos h]
  exact h

/-- At the end of the stream it is over. -/
theorem isOver_finish (s : Serving) (d : Directory) (ending : Ending) :
    (s.finish d ending).2.1.isOver = true := by
  unfold finish
  split
  · assumption
  · cases ending <;> rfl

end Serving

/-! ## Both ends of a connection -/

/-- What can happen on a connection. -/
inductive Duplex.Event where
  /-- The client makes a call; `wire` tells whether the connection takes its request. -/
  | call (call : Call) (wire : Except Net.SystemError Unit)
  /-- This many bytes arrive at the server, which answers what is complete with them. -/
  | serve (n : Nat)
  /-- The server's stream comes to its end. -/
  | finish (ending : Ending)
  /-- This many bytes arrive at the client. -/
  | arrive (n : Nat)
  /-- The end of the client's stream arrives. -/
  | arriveEnd
  /-- The client has waited long enough. -/
  | expire

/-- **A connection with both its ends**, whatever the delays. -/
structure Duplex where
  client : Client
  /-- The call that waits for its response, if there is one. -/
  waiting : Option Call := none
  /-- What the client has written and the server has not read. -/
  going : Bytes := []
  serving : Serving := {}
  /-- What the server has written and has not arrived. -/
  coming : Bytes := []
  /-- Whether the end of the client's stream has arrived. -/
  isEnded : Bool := false

namespace Duplex

/-- The call that waits is over, with what can be read when this many more bytes have
arrived. -/
def conclude (l : Duplex) (call : Call) (n : Nat) : Duplex :=
  { l with client := (l.client.await call (l.coming.take n) l.isEnded).2
           waiting := none, coming := l.coming.drop n }

/-- **What happens**, and the directory after it. -/
def step (l : Duplex) (d : Directory) : Event → Duplex × Directory
  | .call call wire =>
    match l.waiting with
    | some _ => (l, d)
    | none =>
      match l.client.send wire call.request with
      | (.error _, client) => ({ l with client }, d)
      | (.ok sent, client) =>
        ({ l with client, waiting := some call, going := l.going ++ sent }, d)
  | .serve n =>
    let (out, serving, d) := l.serving.receive d (l.going.take n)
    ({ l with serving, going := l.going.drop n, coming := l.coming ++ out }, d)
  | .finish ending =>
    let (out, serving, d) := l.serving.finish d ending
    ({ l with serving, coming := l.coming ++ out }, d)
  | .arrive n =>
    let inbox := l.client.inbox ++ l.coming.take n
    match l.waiting, (l.client.pipeline.receive l.isEnded inbox).1 with
    | some call, .done .. => (l.conclude call n, d)
    | some call, .fail _ => (l.conclude call n, d)
    | _, _ => ({ l with client := { l.client with inbox }, coming := l.coming.drop n }, d)
  | .arriveEnd =>
    if l.serving.isOver = true ∧ l.coming = [] then
      let l := { l with isEnded := true }
      match l.waiting with
      | some call => (l.conclude call 0, d)
      | none => (l, d)
    else (l, d)
  | .expire =>
    match l.waiting with
    | some call => (l.conclude call 0, d)
    | none => (l, d)

section States

variable (patience : Span) (session : Option UInt64) (call : Call) (held : Option UInt64)

/-- Nobody waits for anything. -/
def atRest : Duplex where
  client := { patience, session }
  serving := { connection := { held := session } }

/-- A request of which this has arrived and this has not. -/
def asking (front back : Bytes) : Duplex where
  client := { patience, session, pipeline := { pending := [call.request.expect] } }
  waiting := some call
  going := back
  serving := { connection := { held := session }, buffer := front }

/-- A response of which this has arrived and this has not. -/
def answering (inbox coming : Bytes) : Duplex where
  client := { patience, session, inbox, pipeline := { pending := [call.request.expect] } }
  waiting := some call
  serving := { connection := { held } }
  coming := coming

end States

/-- **A client learns from a response what its connection holds**, or gives up over it. -/
def Learns (patience : Span) (session : Option UInt64) (call : Call) (response : Response)
    (held : Option UInt64) : Prop :=
  let told := ({ patience, session } : Client).told call response.received
  told.2.isBroken = true ∨ told.2 = { patience, session := held }

/-- **How far a connection has come.** -/
inductive Agrees (patience : Span) : Duplex → Prop
  /-- The client has given up. -/
  | broken {l : Duplex} (hbroken : l.client.isBroken = true) (hwaiting : l.waiting = none) :
      Agrees patience l
  /-- The server has ended its side. -/
  | ended {l : Duplex} (hover : l.serving.isOver = true) : Agrees patience l
  | rest (session : Option UInt64) : Agrees patience (atRest patience session)
  | asking {call : Call} {front back : Bytes} (session : Option UInt64)
      (hencode : call.request.encode = .ok (front ++ back)) :
      Agrees patience (asking patience session call front back)
  | answering {call : Call} {response : Response} {inbox coming : Bytes}
      {session held : Option UInt64} (hmeant : response.MeantBy call.request.expect)
      (hcome : inbox ++ coming = response.encode)
      (hlearns : Learns patience session call response held) :
      Agrees patience (answering patience session call held inbox coming)

variable {patience : Span} {l : Duplex}

/-! ## Each of the things that can happen -/

/-- A client that has given up does nothing. -/
theorem Agrees.step_of_broken (hbroken : l.client.isBroken = true) (hwaiting : l.waiting = none)
    (d : Directory) (event : Event) : Agrees patience (l.step d event).1 := by
  cases event with
  | call call wire =>
    simp only [step, hwaiting, Client.send_of_isBroken hbroken]
    exact .broken hbroken rfl
  | serve n => exact .broken hbroken hwaiting
  | finish ending => exact .broken hbroken hwaiting
  | arrive n =>
    simp only [step, hwaiting]
    exact .broken hbroken rfl
  | arriveEnd =>
    simp only [step, hwaiting]
    split
    · exact .broken hbroken rfl
    · exact .broken hbroken hwaiting
  | expire =>
    simp only [step, hwaiting]
    exact .broken hbroken hwaiting

/-- The server's side is over when its stream is. -/
theorem isOver_step_finish (l : Duplex) (d : Directory) (ending : Ending) :
    (l.step d (.finish ending)).1.serving.isOver = true :=
  Serving.isOver_finish l.serving d ending

/-- And then it stays over. -/
theorem isOver_step (h : l.serving.isOver = true) (d : Directory) (event : Event) :
    (l.step d event).1.serving.isOver = true := by
  cases event with
  | serve n => exact Serving.isOver_receive h d _
  | finish ending => exact l.isOver_step_finish d ending
  | call call wire =>
    unfold step
    dsimp only
    split
    · exact h
    · split <;> exact h
  | arrive n =>
    unfold step
    dsimp only
    split <;> exact h
  | arriveEnd =>
    unfold step
    dsimp only
    split
    · split <;> exact h
    · exact h
  | expire =>
    unfold step
    dsimp only
    split <;> exact h

/-- Where nobody waits for anything, a call sends its request, or the client gives up. -/
theorem Agrees.step_of_rest (session : Option UInt64) (d : Directory) (event : Event) :
    Agrees patience ((atRest patience session).step d event).1 := by
  cases event with
  | call call wire =>
    have hsound : ({ patience, session } : Client).isBroken = false := rfl
    obtain ⟨error, hsend⟩ | ⟨bytes, hencode, hsend⟩ :=
      Client.send_of_not_isBroken hsound wire call.request
    · simp only [step, atRest, hsend]
      exact .broken rfl rfl
    · simp only [step, atRest, hsend]
      exact .asking session hencode
  | serve n =>
    simp only [step, atRest, List.take_nil, List.drop_nil, Serving.receive_nil, List.nil_append]
    exact .rest session
  | finish ending => exact .ended (isOver_step_finish _ d ending)
  | arrive n =>
    simp only [step, atRest, List.take_nil, List.drop_nil]
    exact .rest session
  | arriveEnd => exact .rest session
  | expire => exact .rest session

/-- A request that is on its way arrives, or the client gives up. -/
theorem Agrees.step_of_asking {call : Call} {front back : Bytes} (session : Option UInt64)
    (hencode : call.request.encode = .ok (front ++ back)) (d : Directory) (event : Event) :
    Agrees patience ((Duplex.asking patience session call front back).step d event).1 := by
  have hmore : Response.scan call.request.expect [] = .more := rfl
  cases event with
  | call other wire => exact .asking session hencode
  | serve n =>
    have hwhole : call.request.encode = .ok (front ++ back.take n ++ back.drop n) := by
      rw [List.append_assoc, List.take_append_drop]
      exact hencode
    cases hscan : Request.scan (front ++ back.take n) with
    | more =>
      simp only [step, Duplex.asking, Serving.receive_of_more hscan]
      exact .asking session hwhole
    | fail error =>
      have hreceive : ({ connection := { held := session }, buffer := front } : Serving).receive d
          (back.take n) = _ := Serving.receive_of_fail hscan
      simp only [step, Duplex.asking, hreceive]
      exact .ended rfl
    | done request rest =>
      obtain ⟨rfl, rfl, hback⟩ := Request.eq_of_scan_front hwhole hscan
      have hreceive : ({ connection := { held := session }, buffer := front } : Serving).receive d
          (back.take n) = _ := Serving.receive_of_done hscan call.received_request_ne_invalid
      simp only [step, Duplex.asking, hreceive, hback, List.nil_append]
      exact .answering (Link.meantBy_answered session d call) (List.nil_append _)
        (Link.told_of_happens patience (Hub.happens_handle
          { directory := d, connections := fun _ => { held := session } } 0
          call.request.received))
  | finish ending => exact .ended (isOver_step_finish _ d ending)
  | arrive n =>
    have hreceive : ({ pending := [call.request.expect] } : Pipeline).receive false [] = _ :=
      Pipeline.receive_of_more (p := { pending := [call.request.expect] }) hmore false
    simp only [step, Duplex.asking, List.take_nil, List.drop_nil, List.append_nil, hreceive]
    exact .asking session hencode
  | arriveEnd => exact .asking session hencode
  | expire =>
    obtain ⟨-, hbroken⟩ | ⟨hended, -⟩ := @Client.await_of_more
      (Duplex.asking patience session call front back).client call [] hmore false
    · exact .broken hbroken rfl
    · cases hended

section Answering

variable {call : Call} {response : Response} {inbox coming : Bytes}
  {session held : Option UInt64} (hmeant : response.MeantBy call.request.expect)
  (hcome : inbox ++ coming = response.encode)
  (hlearns : Learns patience session call response held)

include hmeant hcome hlearns

/-- When the call is over, the client gives up, or both ends know the same. -/
theorem Agrees.conclude (n : Nat) :
    Agrees patience ((Duplex.answering patience session call held inbox coming).conclude call n) := by
  have hfront : inbox ++ coming.take n ++ coming.drop n = response.encode := by
    rw [List.append_assoc, List.take_append_drop, hcome]
  obtain ⟨-, hbroken⟩ | ⟨hended, -⟩ | ⟨hback, hawait⟩ :=
    Client.await_front (c := (Duplex.answering patience session call held inbox coming).client) rfl
      (Response.canAnswer_of_meantBy hmeant) hfront false
  · exact .broken hbroken rfl
  · cases hended
  · have hended : (Duplex.answering patience session call held inbox coming).conclude call n
        = { client := (({ patience, session } : Client).told call response.received).2,
            serving := { connection := { held } } } := by
      simp only [Duplex.conclude, Duplex.answering, hback]
      exact congrArg (fun awaited : Except ClientError Result × Client =>
        ({ client := awaited.2, serving := { connection := { held } } } : Duplex)) hawait
    rw [hended]
    obtain hbroken | hknows := hlearns
    · exact .broken hbroken rfl
    · rw [hknows]
      exact .rest held

/-- A response that is on its way arrives, or the client gives up. -/
theorem Agrees.step_of_answering (d : Directory) (event : Event) :
    Agrees patience ((Duplex.answering patience session call held inbox coming).step d event).1 := by
  cases event with
  | call other wire => exact .answering hmeant hcome hlearns
  | serve n =>
    simp only [step, Duplex.answering, List.take_nil, List.drop_nil, Serving.receive_nil,
      List.append_nil]
    exact .answering hmeant hcome hlearns
  | finish ending => exact .ended (isOver_step_finish _ d ending)
  | arrive n =>
    unfold step
    dsimp only
    split
    · rename_i hwaiting _
      cases hwaiting
      exact .conclude hmeant hcome hlearns n
    · rename_i hwaiting _
      cases hwaiting
      exact .conclude hmeant hcome hlearns n
    · refine .answering hmeant ?_ hlearns
      show inbox ++ coming.take n ++ coming.drop n = response.encode
      rw [List.append_assoc, List.take_append_drop, hcome]
  | arriveEnd => exact .answering hmeant hcome hlearns
  | expire => exact .conclude hmeant hcome hlearns 0

end Answering

/-- **Whatever happens, this stays true**, and whatever the directory is then. -/
theorem Agrees.step (h : Agrees patience l) (d : Directory) (event : Event) :
    Agrees patience (l.step d event).1 := by
  cases h with
  | broken hbroken hwaiting => exact .step_of_broken hbroken hwaiting d event
  | ended hover => exact .ended (isOver_step hover d event)
  | rest session => exact .step_of_rest session d event
  | asking session hencode => exact .step_of_asking session hencode d event
  | answering hmeant hcome hlearns => exact .step_of_answering hmeant hcome hlearns d event

end Duplex

/-! ## Any number of connections -/

/-- **A directory and the connections to it**, each under a number and with delays of its
own. -/
structure SlowServer where
  directory : Directory
  links : Nat → Duplex

namespace SlowServer

/-- A directory to which everybody has just connected. -/
def start (directory : Directory) (patience : Nat → Span) : SlowServer where
  directory := directory
  links number := .atRest (patience number) none

/-- **What happens on one of the connections.** -/
def step (s : SlowServer) (number : Nat) (event : Duplex.Event) : SlowServer where
  directory := ((s.links number).step s.directory event).2
  links other := if other = number then ((s.links number).step s.directory event).1
    else s.links other

/-- One thing after another. -/
def run (s : SlowServer) (events : List (Nat × Duplex.Event)) : SlowServer :=
  events.foldl (fun s happens => s.step happens.1 happens.2) s

/-- So it is true of every connection, whatever happens on the others. -/
theorem agrees_run (directory : Directory) (patience : Nat → Span) (events : List (Nat × Duplex.Event))
    (number : Nat) :
    Duplex.Agrees (patience number) (((start directory patience).run events).links number) := by
  refine List.foldlRecOn (motive := fun s : SlowServer =>
    Duplex.Agrees (patience number) (s.links number)) events _ (.rest none) ?_
  intro s h happens _
  show Duplex.Agrees (patience number) (if number = happens.1 then _ else s.links number)
  split
  · rename_i heq
    rw [← heq]
    exact h.step s.directory happens.2
  · exact h

/-- **The client knows which session its connection holds**, whatever it and the others
have called for and however their calls have crossed: when no call of its is on its way
and neither end has given up, the session that it has been told of is the one that the
server holds for it, if there is one. -/
theorem session_eq_held (directory : Directory) (patience : Nat → Span)
    (events : List (Nat × Duplex.Event)) (number : Nat)
    (hwaiting : (((start directory patience).run events).links number).waiting = none)
    (hsound : (((start directory patience).run events).links number).client.isBroken = false)
    (hopen : (((start directory patience).run events).links number).serving.isOver = false) :
    (((start directory patience).run events).links number).client.session
      = (((start directory patience).run events).links number).serving.connection.held := by
  have h := agrees_run directory patience events number
  generalize ((start directory patience).run events).links number = l at h hwaiting hsound hopen
  cases h with
  | broken hbroken => exact absurd hbroken (Bool.eq_false_iff.mp hsound)
  | ended hover => exact absurd hover (Bool.eq_false_iff.mp hopen)
  | rest session => rfl
  | asking => cases hwaiting
  | answering => cases hwaiting

/-- One client closes the session that the other holds, while the other tries to close one
that there is not. The other goes on holding it, at both ends. -/
theorem session_eq_held_of_closed :
    let events : List (Nat × Duplex.Event) :=
      [(0, .call .openSession (.ok ())), (0, .serve 9), (0, .arrive 99),
        (1, .call (.resume 1) (.ok ())), (1, .serve 4), (1, .serve 9), (1, .arrive 3),
        (1, .arrive 99), (0, .call (.close 2) (.ok ())), (1, .call (.close 1) (.ok ())),
        (1, .serve 99), (0, .serve 99), (0, .arrive 99), (1, .arrive 99),
        (0, .call .openSession (.ok ())), (0, .serve 99), (0, .arrive 99)]
    let s := (start {} fun _ => .ofSeconds 5).run events
    s.directory.isOpen 1 = false
      ∧ (s.links 0).client.session = some 1 ∧ (s.links 0).serving.connection.held = some 1
      ∧ (s.links 1).client.session = none ∧ (s.links 1).serving.connection.held = none := by
  intro events s
  have hidle : ∀ number < 2, (s.links number).waiting = none
      ∧ (s.links number).client.isBroken = false
      ∧ (s.links number).serving.isOver = false := by decide +kernel
  have hagree : ∀ number < 2,
      (s.links number).client.session = (s.links number).serving.connection.held :=
    fun number hlt => session_eq_held {} _ events number (hidle number hlt).1
      (hidle number hlt).2.1 (hidle number hlt).2.2
  obtain ⟨hover, hheld, hnone⟩ : s.directory.isOpen 1 = false
      ∧ (s.links 0).client.session = some 1 ∧ (s.links 1).client.session = none := by
    decide +kernel
  exact ⟨hover, hheld, (hagree 0 (by decide)).symm.trans hheld, hnone,
    (hagree 1 (by decide)).symm.trans hnone⟩

end SlowServer

end Moorings.Session
