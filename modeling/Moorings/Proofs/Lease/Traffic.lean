import Moorings.Proofs.Lease.Delivery

/-!
# Replies that come late

A reply may come when the client has stopped waiting for it, and has made another
request. `Traffic` is a client and a service, with the datagrams that pass between them.
Whatever has been sent may arrive at any time, in any order, more than once or not at
all, and the client may stop waiting whenever it likes.

What a client takes for an answer is the first reply that has its name in it and, if the
client has asked about a port, the port. A reply does not say of what kind its request
was. If one comes late, and the client has asked for something else since then, about the
same port or about none, then it is taken for the answer to that
(`Traffic.response_to_another`). Nothing else can go wrong (`Traffic.response_of_turn`):
as long as no such reply comes while the client waits, what it takes for an answer is the
reply to what it has asked.
-/

namespace Moorings.Lease

open Service (Gives)

/-! ## What passes between a client and a service -/

/-- **A request that has been served**, with the state in which it has found the
service. -/
structure Letter where
  /-- Which of the requests of the client it is. -/
  number : Nat
  /-- The request. -/
  request : Message
  /-- The pool as it was. -/
  pool : Pool
  /-- When it has been served. -/
  now : Instant

namespace Letter

/-- What the service has said in reply. -/
def reply (letter : Letter) : Message :=
  (Service.answer letter.pool letter.now letter.request.encode).1

/-- The datagram that says it. -/
def datagram (letter : Letter) : Bytes := letter.reply.encode

variable {letter : Letter} {request : Message}

/-- What the service says in reply. -/
theorem gives_reply (h : checkServiceName letter.request.name = .ok ()) :
    Gives letter.request letter.reply :=
  Service.gives_answer_encode h letter.pool letter.now

/-- A reply is read as it was sent, so it decides whatever it answers. -/
theorem verdict_datagram (h : checkServiceName letter.request.name = .ok ()) :
    verdict request letter.datagram
      = if answers request letter.reply = true then some (.ok letter.reply) else none := by
  unfold verdict datagram
  rw [Message.decode_received_encode ((gives_reply h).check_name h)]
  dsimp only
  rw [if_neg (not_not.mpr (gives_reply h).kind_eq)]

/-- **What comes of a request** is the first of the replies that answers it. -/
theorem await_datagrams {letters : List Letter}
    (h : ∀ letter ∈ letters, checkServiceName letter.request.name = .ok ()) (patience : Span)
    (request : Message) :
    (await patience request (letters.map datagram)).1
      = match letters.find? fun letter => answers request letter.reply with
        | some letter => .ok letter.reply
        | none => .error (.timeout patience) := by
  induction letters with
  | nil => rfl
  | cons letter rest ih =>
    obtain ⟨hfirst, hrest⟩ := List.forall_mem_cons.mp h
    rw [List.map_cons, await, verdict_datagram hfirst, List.find?_cons]
    cases answers request letter.reply with
    | true => rfl
    | false => exact ih hrest

/-- **The reply to the request of a call** tells what came of the operation. -/
theorem expectSuccess_reply {name : String} {call : Call}
    (h : checkServiceName letter.request.name = .ok ())
    (hrequest : letter.request = call.request name) :
    expectSuccess letter.reply
      = call.told name (call.operate letter.pool name letter.now).1 := by
  have hhandle := congrArg Prod.fst (Call.handle_request letter.pool name letter.now call)
  rw [← hrequest, ← Service.answer_encode h, Prod.map_fst, Prod.map_fst] at hhandle
  exact hhandle

end Letter

/-- **One call of the client**, from its request to what has come of that. -/
structure Turn where
  /-- The call. -/
  call : Call
  /-- Which of the requests is its request. -/
  number : Nat
  /-- The replies that have arrived while the client has waited. -/
  arrived : List Letter
  /-- What has come of the request. -/
  result : Except ClientError Message

/-- **The reply that a call takes for its answer**: the first of those that have arrived
which answers its request. -/
def Turn.answer? (client : Client) (turn : Turn) : Option Letter :=
  turn.arrived.find? fun letter => answers (turn.call.request client.name) letter.reply

/-- It has arrived, and answers the request. -/
theorem Turn.answers_of_answer? {client : Client} {turn : Turn} {letter : Letter}
    (h : turn.answer? client = some letter) : letter ∈ turn.arrived
      ∧ answers (turn.call.request client.name) letter.reply = true := by
  unfold Turn.answer? at h
  have hanswers := List.find?_some h
  exact ⟨List.mem_of_find?_eq_some h, hanswers⟩

/-- **A call that cannot be mistaken**: whatever has arrived that answers its request is the
reply to a request of the same kind. -/
def Turn.IsUnmistakable (client : Client) (turn : Turn) : Prop :=
  ∀ letter ∈ turn.arrived, answers (turn.call.request client.name) letter.reply = true →
    letter.request.kind = (turn.call.request client.name).kind

instance (client : Client) (turn : Turn) : Decidable (turn.IsUnmistakable client) :=
  inferInstanceAs (Decidable (∀ letter ∈ turn.arrived,
    answers (turn.call.request client.name) letter.reply = true →
      letter.request.kind = (turn.call.request client.name).kind))

/-- **A client and a service**, and what has passed between them. -/
structure Traffic where
  /-- The client at its socket. -/
  socket : Socket
  /-- The pool of the service. -/
  pool : Pool
  /-- The requests that the client has sent. -/
  sent : List Message
  /-- Those that have been served, in that order. -/
  letters : List Letter
  /-- The call that the client is making, if it is making one. -/
  waiting : Option Call
  /-- The replies that have arrived since its last request. -/
  arrived : List Letter
  /-- The calls that are over. -/
  turns : List Turn

/-- What can happen. -/
inductive Event where
  /-- The client sends the request of a call. -/
  | call (call : Call)
  /-- A request that has been sent gets to the service. -/
  | serve (number : Nat) (now : Instant)
  /-- So does a datagram of somebody else. -/
  | serveOther (datagram : Bytes) (now : Instant)
  /-- A reply gets to the client. -/
  | deliver (number : Nat)
  /-- The client has waited long enough, or has its answer. -/
  | finish

namespace Traffic

/-- A client and a service that have not met. -/
def start (client : Client) (pool : Pool) : Traffic :=
  { socket := { client, queued := [] }, pool, sent := [], letters := [], waiting := none
    arrived := [], turns := [] }

/-- **What happens.** Nothing is ever taken out of what has been sent, so it can arrive
again; what never arrives is lost. -/
def step (t : Traffic) : Event → Traffic
  | .call call =>
    match t.waiting with
    | some _ => t
    | none =>
      { t with sent := t.sent ++ [call.request t.socket.client.name], waiting := some call
               arrived := [] }
  | .serve number now =>
    match t.sent[number]? with
    | some request =>
      if t.pool.stopped then t
      else
        { t with pool := (Service.answer t.pool now request.encode).2
                 letters := t.letters ++ [{ number, request, pool := t.pool, now }] }
    | none => t
  | .serveOther datagram now =>
    if t.pool.stopped then t else { t with pool := (Service.answer t.pool now datagram).2 }
  | .deliver number =>
    match t.letters[number]?, t.waiting with
    | some letter, some _ => { t with arrived := t.arrived ++ [letter] }
    | some letter, none =>
      { t with socket := { t.socket with queued := t.socket.queued ++ [letter.datagram] } }
    | none, _ => t
  | .finish =>
    match t.waiting with
    | some call =>
      let (result, socket) := t.socket.exchange (call.request t.socket.client.name)
        (t.arrived.map Letter.datagram) []
      { t with socket, waiting := none
               turns := t.turns ++ [{ call, number := t.sent.length - 1, arrived := t.arrived
                                      result }] }
    | none => t

/-- One thing after another. -/
def run : Traffic → List Event → Traffic := List.foldl step

/-! ## What is known of it -/

/-- What is known of a call that is over. -/
structure Concluded (client : Client) (t : Traffic) (turn : Turn) : Prop where
  sent : t.sent[turn.number]? = some (turn.call.request client.name)
  arrived : ∀ letter ∈ turn.arrived, letter ∈ t.letters ∧ letter.number ≤ turn.number
  result : turn.result = (await client.patience (turn.call.request client.name)
    (turn.arrived.map Letter.datagram)).1

/-- **What is known of all that has passed.** -/
structure Sound (client : Client) (t : Traffic) : Prop where
  socket : t.socket.client = client
  calls : ∀ request ∈ t.sent, ∃ call : Call, request = call.request client.name
  letters : ∀ letter ∈ t.letters, t.sent[letter.number]? = some letter.request
  waiting : ∀ call, t.waiting = some call → t.sent.getLast? = some (call.request client.name)
  arrived : ∀ letter ∈ t.arrived, letter ∈ t.letters
  turns : ∀ turn ∈ t.turns, Concluded client t turn

variable {client : Client} {t t' : Traffic}

/-- What is known of a call that is over stays so, whatever else is sent and served. -/
theorem Concluded.mono {turn : Turn} (h : Concluded client t turn) (hsent : t.sent <+: t'.sent)
    (hletters : t.letters <+: t'.letters) : Concluded client t' turn where
  sent := by grind [List.prefix_iff_getElem?, h.sent]
  arrived letter hletter :=
    (h.arrived letter hletter).imp_left fun hmem => hletters.subset hmem
  result := h.result

theorem sound_start (client : Client) (pool : Pool) : Sound client (start client pool) where
  socket := rfl
  calls _ h := nomatch h
  letters _ h := nomatch h
  waiting _ h := nomatch h
  arrived _ h := nomatch h
  turns _ h := nomatch h

/-- One more request is sent, and nothing has arrived since. -/
theorem Sound.sent_append (h : Sound client t) (call : Call) :
    Sound client { t with sent := t.sent ++ [call.request client.name], waiting := some call
                          arrived := [] } where
  socket := h.socket
  calls := List.forall_mem_append.mpr ⟨h.calls, List.forall_mem_singleton.mpr ⟨call, rfl⟩⟩
  letters letter hletter := by grind [h.letters letter hletter]
  waiting call' hcall := by
    cases hcall
    exact List.getLast?_concat
  arrived _ hletter := nomatch hletter
  turns turn hturn := (h.turns turn hturn).mono (List.prefix_append _ _) List.prefix_rfl

/-- A request that has been sent is served. -/
theorem Sound.letters_append (h : Sound client t) {letter : Letter}
    (hsent : t.sent[letter.number]? = some letter.request) (pool : Pool) :
    Sound client { t with pool, letters := t.letters ++ [letter] } where
  socket := h.socket
  calls := h.calls
  letters := List.forall_mem_append.mpr ⟨h.letters, List.forall_mem_singleton.mpr hsent⟩
  waiting := h.waiting
  arrived letter' hletter := List.mem_append_left _ (h.arrived letter' hletter)
  turns turn hturn := (h.turns turn hturn).mono List.prefix_rfl (List.prefix_append _ _)

/-- A reply arrives. -/
theorem Sound.arrived_append (h : Sound client t) {letter : Letter}
    (hletter : letter ∈ t.letters) : Sound client { t with arrived := t.arrived ++ [letter] } where
  socket := h.socket
  calls := h.calls
  letters := h.letters
  waiting := h.waiting
  arrived := List.forall_mem_append.mpr ⟨h.arrived, List.forall_mem_singleton.mpr hletter⟩
  turns turn hturn := (h.turns turn hturn).mono List.prefix_rfl List.prefix_rfl

/-- What comes of a request depends on the replies that have arrived since it was sent. -/
theorem Sound.exchange_eq (h : Sound client t) (call : Call) :
    let waited := await client.patience (call.request client.name) (t.arrived.map Letter.datagram)
    t.socket.exchange (call.request t.socket.client.name) (t.arrived.map Letter.datagram) []
      = (waited.1, { client, queued := waited.2 ++ [] }) := by
  rw [Socket.exchange_eq, h.socket]

/-- A call is over, with what the client has made of the replies that have arrived. -/
theorem Sound.turns_append (h : Sound client t) {call : Call} (hcall : t.waiting = some call) :
    let exchange := t.socket.exchange (call.request t.socket.client.name)
      (t.arrived.map Letter.datagram) []
    Sound client { t with
      socket := exchange.2, waiting := none
      turns := t.turns ++ [{ call, number := t.sent.length - 1, arrived := t.arrived
                             result := exchange.1 }] } where
  socket := by rw [h.exchange_eq]
  calls := h.calls
  letters := h.letters
  waiting _ hnone := nomatch hnone
  arrived := h.arrived
  turns := by
    refine List.forall_mem_append.mpr ⟨fun turn hturn =>
      (h.turns turn hturn).mono List.prefix_rfl List.prefix_rfl, List.forall_mem_singleton.mpr
      ⟨?_, fun letter hletter => ⟨h.arrived letter hletter, ?_⟩, ?_⟩⟩
    · rw [← h.waiting call hcall, List.getLast?_eq_getElem?]
    · have hnumber := h.letters letter (h.arrived letter hletter)
      exact Nat.le_sub_one_of_lt (List.getElem?_eq_some_iff.mp hnumber).1
    · rw [h.exchange_eq]

/-- **Whatever happens, this stays true.** -/
theorem Sound.step (h : Sound client t) (event : Event) : Sound client (t.step event) := by
  cases event with
  | call call =>
    unfold Traffic.step
    dsimp only
    split
    · exact h
    · rw [h.socket]
      exact h.sent_append call
  | serve number now =>
    unfold Traffic.step
    dsimp only
    split
    · rename_i request hrequest
      split
      · exact h
      · exact h.letters_append hrequest _
    · exact h
  | serveOther datagram now =>
    unfold Traffic.step
    dsimp only
    split
    · exact h
    · exact { h with turns := fun turn hturn =>
        (h.turns turn hturn).mono List.prefix_rfl List.prefix_rfl }
  | deliver number =>
    unfold Traffic.step
    dsimp only
    split
    · rename_i letter _ hletter _
      exact h.arrived_append (List.mem_of_getElem? hletter)
    · exact { h with turns := fun turn hturn =>
        (h.turns turn hturn).mono List.prefix_rfl List.prefix_rfl }
    · exact h
  | finish =>
    unfold Traffic.step
    dsimp only
    split
    · rename_i call hcall
      exact h.turns_append hcall
    · exact h

/-- So it is true of all that can pass. -/
theorem sound_run (client : Client) (pool : Pool) (events : List Event) :
    Sound client (run (start client pool) events) :=
  List.foldlRecOn events step (sound_start client pool) fun _ h event _ => h.step event

/-! ## What an answer says -/

/-- A reply is what it says. -/
theorem eq_response {reply : Message} (hkind : reply.kind = .response)
    (hstatus : reply.status = .success) :
    reply = .response reply.name reply.port .success := by
  obtain ⟨kind, name, port, status⟩ := reply
  cases hkind
  cases hstatus
  rfl

/-- A call that has gone well has got a reply that says so. -/
theorem status_of_expectSuccess {reply result : Message} (h : expectSuccess reply = .ok result) :
    reply.status = .success := by
  unfold expectSuccess at h
  split at h
  · assumption
  · cases h

section

variable {name : String} {call asked : Call} {reply : Message}

/-- **Which replies are taken for the answer to which requests.** A reply to one call is
taken for the answer to another if both have the same name, and it has the port that the
other asks about. The reply to a request that makes no sense is taken for the answer to
anything. -/
theorem answers_reply_iff (hgives : Gives (asked.request name) reply) :
    answers (call.request name) reply = true
      ↔ asked = .requestPort ∧ name = ""
        ∨ (asked.request name).name = (call.request name).name
          ∧ ((call.request name).kind = .keepAlive ∨ (call.request name).kind = .closePort →
            reply.port = (call.request name).port) := by
  rw [answers_eq_true_iff]
  obtain ⟨rfl, hnonsense⟩ | ⟨hname, hstatus⟩ :=
    hgives.undefined_or_name_eq Call.name_request_of_stop
  · refine iff_of_true (.inl ⟨rfl, rfl⟩) (.inl ?_)
    cases asked with
    | requestPort => exact ⟨rfl, (hnonsense.resolve_left nofun).2⟩
    | _ => exact absurd hnonsense (by rintro (h | ⟨h, -⟩) <;> cases h)
  · have hsense : ¬(asked = .requestPort ∧ name = "") := by
      rintro ⟨rfl, rfl⟩
      cases hgives with
      | undefined => exact hstatus rfl
      | granted _ hne => exact hne rfl
      | allBusy _ hne => exact hne rfl
      | held h => exact h.elim nofun nofun
      | _ h => cases h
    rw [or_iff_right fun h => hstatus h.1, or_iff_right hsense, hname]

/-- If the requests are of one kind, then they ask for the same. -/
theorem eq_of_kind_eq (hgives : Gives (asked.request name) reply)
    (hanswers : answers (call.request name) reply = true)
    (hkind : (asked.request name).kind = (call.request name).kind) : asked = call := by
  have hport : (call.request name).kind = .keepAlive ∨ (call.request name).kind = .closePort →
      (asked.request name).port = (call.request name).port := by
    intro hheld
    rw [← hgives.port_eq (hkind ▸ hheld)]
    obtain ⟨rfl, -⟩ | ⟨-, hport⟩ := (answers_reply_iff hgives).mp hanswers
    · rw [← hkind] at hheld
      exact hheld.elim nofun nofun
    · exact hport hheld
  cases asked with
  | requestPort =>
    cases call with
    | requestPort => rfl
    | _ => cases hkind
  | keepAlive port =>
    cases call with
    | keepAlive port' => exact congrArg Call.keepAlive (hport (.inl rfl))
    | _ => cases hkind
  | closePort port =>
    cases call with
    | closePort port' => exact congrArg Call.closePort (hport (.inr rfl))
    | _ => cases hkind
  | lookupPort =>
    cases call with
    | lookupPort => rfl
    | _ => cases hkind
  | stop =>
    cases call with
    | stop => rfl
    | _ => cases hkind

/-- Who is told that a port is granted has been granted it. -/
theorem allocate_of_told {pool : Pool} {now : Instant} {response : Message}
    (h : Call.requestPort.told name (Call.requestPort.operate pool name now).1 = .ok response) :
    (pool.allocate name now).1 = .granted response.port := by
  unfold Call.operate at h
  dsimp only at h
  split at h
  · cases h
  · rcases hgrant : pool.allocate name now with ⟨port | _, pool'⟩
    · rw [hgrant] at h
      cases h
      rfl
    · rw [hgrant] at h
      cases h

/-- Who is told that a port is given up has given it up. -/
theorem release_of_told {pool : Pool} {now : Instant} {port : UInt16} {response : Message}
    (h : (Call.closePort port).told name ((Call.closePort port).operate pool name now).1
      = .ok response) : (pool.release port name).1 = .ok := by
  unfold Call.operate at h
  dsimp only at h
  rcases hrelease : pool.release port name with ⟨_ | _, pool'⟩
  · rfl
  · rw [hrelease] at h
    cases h

end

/-! ## What is taken for an answer -/

/-- Whatever the service has been asked is what a call of the client asks. -/
theorem Sound.exists_asked (h : Sound client t) (hname : checkServiceName client.name = .ok ())
    {letter : Letter} (hletter : letter ∈ t.letters) :
    ∃ asked : Call, letter.request = asked.request client.name
      ∧ checkServiceName letter.request.name = .ok () := by
  obtain ⟨asked, hasked⟩ := h.calls letter.request (List.mem_of_getElem? (h.letters letter hletter))
  exact ⟨asked, hasked, hasked ▸ Call.check_request hname asked⟩

/-- **What a client takes for an answer**, whatever has been lost, has come late, or has
come in another order. It takes the first reply that has arrived and answers its request,
and it has waited in vain if there is none. What has arrived are replies to requests that
the client has made, before this one or as this one. One answers the request if both have
been made under the same name and, if the client has asked about a port, it is about that
port; the exception is a client without a name, which takes the reply to a request that
makes no sense for the answer to whatever it has asked. If the call has gone well, then the
service has said so of the same name and port.

So the answer is the reply to what has been asked as long as the call cannot be mistaken:
if whatever has arrived under the same name, and about the port that was asked about, is
the reply to a request of the same kind. Then the request that has been answered is the
same in everything, and the caller is told what has come of the operation: who is told that
a port is granted has been granted it, and who is told that a port is given up has given it
up. -/
theorem response_of_turn {client : Client} (hname : checkServiceName client.name = .ok ())
    (pool : Pool) (events : List Event) :
    let t := run (start client pool) events
    ∀ turn ∈ t.turns,
      let request := turn.call.request client.name
      t.sent[turn.number]? = some request
        ∧ (∀ letter ∈ turn.arrived, ∃ asked : Call,
          letter ∈ t.letters ∧ letter.number ≤ turn.number
            ∧ t.sent[letter.number]? = some letter.request
            ∧ letter.request = asked.request client.name
            ∧ (answers request letter.reply = true
              ↔ asked = .requestPort ∧ client.name = ""
                ∨ letter.request.name = request.name
                  ∧ (request.kind = .keepAlive ∨ request.kind = .closePort →
                    letter.reply.port = request.port)))
        ∧ (turn.result = match turn.answer? client with
          | some letter => .ok letter.reply
          | none => .error (.timeout client.patience))
        ∧ ∀ letter, turn.answer? client = some letter →
          letter ∈ turn.arrived
            ∧ (conclude turn.result = .ok letter.reply →
              letter.reply = .response request.name letter.reply.port .success)
            ∧ (turn.IsUnmistakable client → letter.request.kind = request.kind)
            ∧ (letter.request.kind = request.kind →
              letter.request = request
                ∧ conclude turn.result
                  = turn.call.told client.name
                    (turn.call.operate letter.pool client.name letter.now).1
                ∧ (turn.call = .requestPort →
                  ∀ response, conclude turn.result = .ok response →
                    (letter.pool.allocate client.name letter.now).1 = .granted response.port)
                ∧ ∀ port, turn.call = .closePort port →
                  ∀ response, conclude turn.result = .ok response →
                    (letter.pool.release port client.name).1 = .ok) := by
  intro t turn hturn request
  have hsound : Sound client t := sound_run client pool events
  have hover : Concluded client t turn := hsound.turns turn hturn
  have hasked : ∀ letter ∈ turn.arrived, ∃ asked : Call,
      letter.request = asked.request client.name
        ∧ checkServiceName letter.request.name = .ok () := fun letter harrived =>
    hsound.exists_asked hname (hover.arrived letter harrived).1
  have hresult : turn.result = match turn.answer? client with
      | some letter => .ok letter.reply
      | none => .error (.timeout client.patience) :=
    hover.result.trans (Letter.await_datagrams
      (fun letter harrived => (hasked letter harrived).choose_spec.2) client.patience request)
  refine ⟨hover.sent, fun letter harrived => ?_, hresult, fun letter hanswer => ?_⟩
  · obtain ⟨hletter, hnumber⟩ := hover.arrived letter harrived
    obtain ⟨asked, hrequest, hcheck⟩ := hasked letter harrived
    have hgives := Letter.gives_reply hcheck
    rw [hrequest] at hgives
    refine ⟨asked, hletter, hnumber, hsound.letters letter hletter, hrequest, ?_⟩
    rw [hrequest]
    exact answers_reply_iff hgives
  · obtain ⟨harrived, hanswers⟩ := Turn.answers_of_answer? hanswer
    obtain ⟨asked, hrequest, hcheck⟩ := hasked letter harrived
    have hgives := Letter.gives_reply hcheck
    rw [hanswer] at hresult
    have hconclude : conclude turn.result = expectSuccess letter.reply := by
      rw [hresult, conclude]
    refine ⟨harrived, fun hok => ?_, fun hkinds => hkinds letter harrived hanswers, fun hkind => ?_⟩
    · rw [hconclude] at hok
      have hstatus := status_of_expectSuccess hok
      obtain ⟨hundefined, -⟩ | ⟨hsame, -⟩ := answers_eq_true_iff.mp hanswers
      · rw [hundefined] at hstatus
        cases hstatus
      · rw [← hsame]
        exact eq_response hgives.kind_eq hstatus
    · rw [hrequest] at hgives hkind
      obtain rfl := eq_of_kind_eq hgives hanswers hkind
      have htold := hconclude.trans (Letter.expectSuccess_reply hcheck hrequest)
      refine ⟨hrequest, htold, fun hcall response hok => ?_, fun port hcall response hok => ?_⟩
      · rw [htold, hcall] at hok
        exact allocate_of_told hok
      · rw [htold, hcall] at hok
        exact release_of_told hok

/-- A renewal during which the reply to an earlier call comes first. It is about another
port, so the renewal cannot be mistaken. -/
theorem response_of_turn_after_late :
    let client : Client := { name := "X", patience := .ofSeconds 5 }
    ∃ pool, Pool.new 40000 40001 (.ofSeconds 300) = .ok pool
      ∧ (let t := run (start client pool)
          [.call .requestPort, .serve 0 0, .finish, .call (.keepAlive 40001), .deliver 0,
            .serve 1 5, .deliver 1, .finish]
        checkServiceName client.name = .ok ()
          ∧ ∃ turn ∈ t.turns, turn.arrived.length = 2 ∧ turn.IsUnmistakable client
            ∧ ∃ letter, turn.answer? client = some letter
              ∧ letter.request = .request .keepAlive "X" 40001
              ∧ turn.result = .ok (.response "X" 40001 .serviceNotFound)) := by
  intro client
  refine ⟨_, rfl, ?_⟩
  intro t
  have hname : checkServiceName client.name = .ok () := by decide
  obtain ⟨turn, hturn, hcall, hlength, hkinds, hsome, hresult⟩ : ∃ turn ∈ t.turns,
      turn.call = .keepAlive 40001 ∧ turn.arrived.length = 2 ∧ turn.IsUnmistakable client
        ∧ (turn.answer? client).isSome = true
        ∧ turn.result = .ok (.response "X" 40001 .serviceNotFound) := by
    decide +kernel
  obtain ⟨letter, hanswer⟩ := Option.isSome_iff_exists.mp hsome
  obtain ⟨-, -, -, htaken⟩ := response_of_turn hname _ _ turn hturn
  obtain ⟨-, -, hkind, hsame⟩ := htaken letter hanswer
  have hrequest := (hsame (hkind hkinds)).1
  rw [hcall] at hrequest
  exact ⟨hname, turn, hturn, hlength, hkinds, letter, hanswer, hrequest, hresult⟩

/-- **An answer that is the reply to something else.** The reply to a renewal comes when
the client gives the port up, and the client takes the port to be given up, though nobody
has been told. The reply to a client that has looked for a port comes when it asks for
one, and it takes the port to be granted. A client without a name has asked for a port,
which makes no sense, and is told so when it looks for one. -/
theorem response_to_another :
    ∃ pool, Pool.new 40000 40000 (.ofSeconds 300) = .ok pool
      ∧ (let t := run (start { name := "X", patience := .ofSeconds 5 } pool)
          [.call .requestPort, .serve 0 0, .deliver 0, .finish,
            .call (.keepAlive 40000), .serve 1 5, .finish,
            .call (.closePort 40000), .deliver 1, .finish]
        t.turns.map (fun turn => (turn.call, conclude turn.result))
            = [(.requestPort, .ok (.response "X" 40000 .success)),
              (.keepAlive 40000, .error (.timeout (.ofSeconds 5))),
              (.closePort 40000, .ok (.response "X" 40000 .success))]
          ∧ t.letters.map (·.request.kind) = [.requestPort, .keepAlive]
          ∧ t.pool.leases = [(40000, "X")])
      ∧ (let t := run (start { name := "X", patience := .ofSeconds 5 } pool)
          [.serveOther (Call.requestPort.request "X").encode 0,
            .call .lookupPort, .serve 0 5, .finish, .call .requestPort, .deliver 0, .finish]
        t.turns.map (fun turn => (turn.call, conclude turn.result))
            = [(.lookupPort, .error (.timeout (.ofSeconds 5))),
              (.requestPort, .ok (.response "X" 40000 .success))]
          ∧ t.letters.map (·.request.kind) = [.lookupPort])
      ∧ (let t := run (start { name := "", patience := .ofSeconds 5 } pool)
          [.call .requestPort, .serve 0 0, .finish, .call .lookupPort, .deliver 0, .finish]
        t.turns.map (fun turn => (turn.call, turn.result))
            = [(.requestPort, .error (.timeout (.ofSeconds 5))),
              (.lookupPort, .ok .undefinedError)]
          ∧ t.letters.map (·.request.kind) = [.requestPort]) :=
  ⟨_, rfl, ⟨by decide +kernel, by decide +kernel, by decide +kernel⟩,
    ⟨by decide +kernel, by decide +kernel⟩, by decide +kernel, by decide +kernel⟩

end Traffic

end Moorings.Lease
