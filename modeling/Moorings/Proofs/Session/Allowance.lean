import Moorings.Proofs.Session.Backlog

/-!
# A peer that takes only so much

A request is handled before its response is written. So when a peer takes no more, the
request that is being answered has been applied already, and the peer is not told. It is
the only one (`written_until_cut`): whatever was applied before has been answered to the
last byte, and what comes after it is not applied.

`Request.heard` is what a connection is asked by a whole stream, and
`Connection.handleAll` is what comes of it. Neither knows of pieces, of a buffer or of
what the peer takes. A serving does nothing else than to answer what is heard, for as
long as it lasts (`serve_eq_answerAll`). What carries this is what a serving has still
to do, `Serving.due`: what is written for a piece is always followed by it.
-/

namespace Moorings.Session

open Text (utf8 ofUtf8Lossy)

/-! ## What is heard of a stream -/

namespace Request

/-- **What a connection hears of a whole stream**: its requests in order, up to the first
thing that is none. What is not legible is no request either, and neither are bytes that
are left over at a clean end of the stream. -/
def heard (ending : Ending) (stream : Bytes) : List Request :=
  match _e : scan stream with
  | .done request rest =>
    match request with
    | .invalid line => [.invalid line]
    | request => request :: heard ending rest
  | .fail _ => [.invalid (ofUtf8Lossy stream)]
  | .more => if ending = .eof ∧ stream ≠ [] then [.invalid (ofUtf8Lossy stream)] else []
termination_by stream.length
decreasing_by exact consumes_scan _e

variable {ending : Ending} {stream rest : Bytes}

theorem heard_of_invalid {line : String} (h : scan stream = .done (.invalid line) rest) :
    heard ending stream = [.invalid line] := by
  rw [heard]
  split
  · rename_i request rest' e
    cases h.symm.trans e
    rfl
  · rename_i error e
    cases h.symm.trans e
  · rename_i e
    cases h.symm.trans e

theorem heard_of_done {request : Request} (h : scan stream = .done request rest)
    (hvalid : ∀ line, request ≠ .invalid line) :
    heard ending stream = request :: heard ending rest := by
  rw [heard]
  split
  · rename_i request' rest' e
    cases h.symm.trans e
    split
    · exact absurd rfl (hvalid _)
    · rfl
  · rename_i error e
    cases h.symm.trans e
  · rename_i e
    cases h.symm.trans e

theorem heard_of_fail {error : ProtocolError} (h : scan stream = .fail error) :
    heard ending stream = [.invalid (ofUtf8Lossy stream)] := by
  rw [heard]
  split
  · rename_i request rest e
    cases h.symm.trans e
  · rfl
  · rename_i e
    cases h.symm.trans e

theorem heard_of_more (h : scan stream = .more) :
    heard ending stream
      = if ending = .eof ∧ stream ≠ [] then [.invalid (ofUtf8Lossy stream)] else [] := by
  rw [heard]
  split
  · rename_i request rest e
    cases h.symm.trans e
  · rename_i error e
    cases h.symm.trans e
  · rfl

/-- **A stream is heard request by request**, until there is none. -/
theorem induction_on_stream {motive : Bytes → Prop}
    (more : ∀ stream, scan stream = .more → motive stream)
    (fail : ∀ stream error, scan stream = .fail error → motive stream)
    (invalid : ∀ stream line rest, scan stream = .done (.invalid line) rest → motive stream)
    (valid : ∀ stream request rest, scan stream = .done request rest →
      (∀ line, request ≠ .invalid line) → motive rest → motive stream)
    (stream : Bytes) : motive stream := by
  induction stream using consumes_scan.induction with
  | more stream hs => exact more stream hs
  | fail stream error hs => exact fail stream error hs
  | done stream request rest hs ih =>
    by_cases hvalid : ∀ line, request ≠ .invalid line
    · exact valid stream request rest hs hvalid ih
    · obtain ⟨line, hline⟩ := not_forall.mp hvalid
      obtain rfl := not_not.mp hline
      exact invalid stream line rest hs

/-- **Requests of which only the last may be none.** -/
def IsHeard : List Request → Prop
  | [] => True
  | request :: rest => (rest = [] ∨ ∀ line, request ≠ .invalid line) ∧ IsHeard rest

/-- Nothing is heard after what is no request. -/
theorem isHeard_heard (ending : Ending) (stream : Bytes) : IsHeard (heard ending stream) := by
  induction stream using induction_on_stream with
  | more stream hs =>
    rw [heard_of_more hs]
    split
    · exact ⟨.inl rfl, trivial⟩
    · exact trivial
  | fail stream error hs =>
    rw [heard_of_fail hs]
    exact ⟨.inl rfl, trivial⟩
  | invalid stream line rest hs =>
    rw [heard_of_invalid hs]
    exact ⟨.inl rfl, trivial⟩
  | valid stream request rest hs hvalid ih =>
    rw [heard_of_done hs hvalid]
    exact ⟨.inr hvalid, ih⟩

end Request

/-! ## Answering what is heard -/

namespace Serving

variable {s : Serving} {d : Directory}

theorem send_with_buffer (s : Serving) (buffer : Bytes) (reply : Reply) :
    ({ s with buffer } : Serving).send reply
      = ((s.send reply).1, { (s.send reply).2 with buffer }) := by
  obtain ⟨c, old, allowance, isOver⟩ := s
  cases allowance with
  | none => rfl
  | some n =>
    unfold send write
    dsimp only
    split <;> rfl

/-- What is in the buffer makes no difference to the answers. -/
theorem answerAll_with_buffer (s : Serving) (d : Directory) (buffer : Bytes)
    (requests : List Request) :
    ({ s with buffer } : Serving).answerAll d requests
      = ((s.answerAll d requests).1, { (s.answerAll d requests).2.1 with buffer },
        (s.answerAll d requests).2.2) := by
  induction requests generalizing s d with
  | nil => rfl
  | cons request rest ih =>
    rw [answerAll, answerAll]
    by_cases hover : s.isOver = true
    · rw [if_pos hover, if_pos hover]
    · rw [if_neg hover, if_neg hover]
      have hsend := send_with_buffer { s with connection := (s.connection.handle d request).2.1 }
        buffer (s.connection.handle d request).1
      dsimp only at hsend ⊢
      rw [hsend, ih]

/-- What is written, and the directory afterwards. -/
def outcome (answered : Bytes × Serving × Directory) : Bytes × Directory :=
  (answered.1, answered.2.2)

theorem outcome_answerAll_with_buffer (s : Serving) (d : Directory) (buffer : Bytes)
    (requests : List Request) :
    outcome (({ s with buffer } : Serving).answerAll d requests)
      = outcome (s.answerAll d requests) := by
  rw [answerAll_with_buffer]
  rfl

/-- **What is still to be written**, and the directory after that, if the stream goes on
with these bytes. -/
def due (s : Serving) (d : Directory) (ending : Ending) (stream : Bytes) : Bytes × Directory :=
  outcome (s.answerAll d (Request.heard ending (s.buffer ++ stream)))

/-- What follows what is written. -/
def followedBy (answered : Bytes × Serving × Directory) (ending : Ending) (stream : Bytes) :
    Bytes × Directory :=
  let due := answered.2.1.due answered.2.2 ending stream
  (answered.1 ++ due.1, due.2)

theorem followedBy_of_isOver {answered : Bytes × Serving × Directory}
    (h : answered.2.1.isOver = true) (ending : Ending) (stream : Bytes) :
    followedBy answered ending stream = outcome answered := by
  unfold followedBy due
  rw [answerAll_of_isOver h]
  exact congrArg (·, answered.2.2) (List.append_nil _)

theorem followedBy_append (front : Bytes) (answered : Bytes × Serving × Directory)
    (ending : Ending) (stream : Bytes) :
    followedBy (front ++ answered.1, answered.2) ending stream
      = (front ++ (followedBy answered ending stream).1,
        (followedBy answered ending stream).2) :=
  congrArg (·, _) (List.append_assoc _ _ _)

/-- The first of some requests answered, and then the others. -/
theorem answerAll_cons_eq (h : s.isOver = false) (d : Directory) (request : Request)
    (rest : List Request) :
    let answered := s.connection.handle d request
    let sent := ({ s with connection := answered.2.1 } : Serving).send answered.1
    s.answerAll d (request :: rest)
      = (sent.1 ++ (sent.2.answerAll answered.2.2 rest).1,
        (sent.2.answerAll answered.2.2 rest).2) := by
  rw [answerAll, if_neg (Bool.eq_false_iff.mp h)]

/-- When the serving is over, whatever was taken from the buffer is not answered. -/
theorem answer_of_isOver (h : s.isOver = true) (d : Directory) (batch : Batch Request) :
    s.answer d batch = ([], { s with buffer := batch.left }, d) := by
  have hbuffer : ({ s with buffer := batch.left } : Serving).isOver = true := h
  rw [answer_eq, answerAll_of_isOver hbuffer]
  exact if_pos h

/-- Nothing taken from the buffer, nothing answered. -/
theorem answer_nil (s : Serving) (d : Directory) (left : Bytes) :
    s.answer d { items := [], error := none, left } = ([], { s with buffer := left }, d) := by
  rw [answer_eq]
  exact ite_self _

/-- The first of what was taken from the buffer answered, and then the rest of it. -/
theorem answer_cons (h : s.isOver = false) (d : Directory) (request : Request)
    (batch : Batch Request) :
    let answered := s.connection.handle d request
    let sent := ({ s with connection := answered.2.1 } : Serving).send answered.1
    s.answer d { batch with items := request :: batch.items }
      = (sent.1 ++ (sent.2.answer answered.2.2 batch).1,
        (sent.2.answer answered.2.2 batch).2) := by
  intro answered sent
  have hbuffer : ({ s with buffer := batch.left } : Serving).isOver = false := h
  have hsend : ({ s with connection := answered.2.1, buffer := batch.left } : Serving).send
      answered.1 = (sent.1, { sent.2 with buffer := batch.left }) :=
    send_with_buffer { s with connection := answered.2.1 } batch.left answered.1
  rw [answer_eq, answerAll_cons_eq hbuffer]
  dsimp only
  rw [hsend, settle_append]
  rfl

/-- After a refusal the serving is over. -/
theorem isOver_send_refusal (s : Serving) : (s.send .refusal).2.isOver = true := by
  show ((s.write _).2.isOver || true) = true
  rw [Bool.or_true]

/-- What is not legible is answered with a refusal. -/
theorem answer_refused (h : s.isOver = false) (d : Directory) {error : ProtocolError}
    (herror : error.isTransport = false) (left : Bytes) :
    s.answer d { items := [], error := some error, left }
      = ((s.send .refusal).1, { (s.send .refusal).2 with buffer := left }, d) := by
  have hover : ¬s.isOver = true := Bool.eq_false_iff.mp h
  have htransport : ¬error.isTransport = true := Bool.eq_false_iff.mp herror
  rw [answer_eq, settle]
  show (if s.isOver = true then _ else if error.isTransport = true then _ else
    (([] : Bytes) ++ (({ s with buffer := left } : Serving).send .refusal).1,
      (({ s with buffer := left } : Serving).send .refusal).2, d)) = _
  rw [if_neg hover, if_neg htransport, send_with_buffer, List.nil_append]

/-- So is what is no request. -/
theorem answerAll_invalid (h : s.isOver = false) (d : Directory) (line : String) :
    s.answerAll d [.invalid line] = ((s.send .refusal).1, (s.send .refusal).2, d) := by
  rw [answerAll_cons_eq h]
  exact congrArg (·, _) (List.append_nil _)

/-- When the serving is over, nothing is due. -/
theorem outcome_answerAll_of_isOver (h : s.isOver = true) (d : Directory)
    (requests : List Request) (batch : Batch Request) (ending : Ending) (stream : Bytes) :
    outcome (s.answerAll d requests) = followedBy (s.answer d batch) ending stream := by
  rw [answer_of_isOver h, answerAll_of_isOver h, followedBy_of_isOver h]
  rfl

/-- **A buffer answered**: what is written for it is followed by what is due. -/
theorem outcome_answer_drain (s : Serving) (d : Directory) (buffer : Bytes) (ending : Ending)
    (stream : Bytes) :
    outcome (s.answerAll d (Request.heard ending (buffer ++ stream)))
      = followedBy (s.answer d (Request.drain buffer)) ending stream := by
  induction buffer using Request.induction_on_stream generalizing s d with
  | more buffer hs =>
    rw [Request.drain, Scan.drain_of_more hs, answer_nil,
      ← outcome_answerAll_with_buffer s d buffer]
    rfl
  | fail buffer error hs =>
    cases hover : s.isOver with
    | true => exact outcome_answerAll_of_isOver hover d _ _ ending stream
    | false =>
      rw [Request.drain, Scan.drain_of_fail hs,
        Request.heard_of_fail (Request.stable_scan.fail hs stream),
        answer_refused hover d (Request.blamesBytes_scan hs), answerAll_invalid hover,
        followedBy_of_isOver (isOver_send_refusal s)]
      rfl
  | invalid buffer line rest hs =>
    cases hover : s.isOver with
    | true => exact outcome_answerAll_of_isOver hover d _ _ ending stream
    | false =>
      -- whatever has been taken after it is not answered
      have hrest := outcome_answerAll_of_isOver (isOver_send_refusal s) d []
        (Request.drain rest) ending stream
      rw [Request.drain, Scan.drain_of_done hs, answer_cons hover, followedBy_append,
        Request.heard_of_invalid (Request.stable_scan.done hs stream), answerAll_cons_eq hover]
      exact congrArg (Prod.map (_ ++ ·) id) hrest
  | valid buffer request rest hs hvalid ih =>
    cases hover : s.isOver with
    | true => exact outcome_answerAll_of_isOver hover d _ _ ending stream
    | false =>
      rw [Request.drain, Scan.drain_of_done hs, answer_cons hover, followedBy_append,
        Request.heard_of_done (Request.stable_scan.done hs stream) hvalid,
        answerAll_cons_eq hover]
      exact congrArg (Prod.map (_ ++ ·) id) (ih _ _)

/-- **A piece received**: what is written for it is followed by what is due. -/
theorem due_receive (s : Serving) (d : Directory) (ending : Ending) (piece stream : Bytes) :
    s.due d ending (piece ++ stream) = followedBy (s.receive d piece) ending stream := by
  unfold receive
  cases hover : s.isOver with
  | true =>
    rw [if_pos rfl, followedBy_of_isOver hover, due, answerAll_of_isOver hover]
  | false =>
    rw [if_neg Bool.false_ne_true, ← outcome_answer_drain, due, List.append_assoc]

/-- All the pieces of the stream. -/
theorem due_receiveAll (s : Serving) (d : Directory) (ending : Ending) (pieces : List Bytes) :
    s.due d ending pieces.flatten = followedBy (s.receiveAll d pieces) ending [] := by
  induction pieces generalizing s d with
  | nil => rfl
  | cons piece pieces ih =>
    rw [List.flatten_cons, due_receive, receiveAll, followedBy_append]
    exact congrArg (Prod.map (_ ++ ·) id) (ih _ _)

/-- **The end of the stream**: what is written at it is all that is still due. -/
theorem due_finish {s : Serving} (hwaits : s.isOver = false → Request.scan s.buffer = .more)
    (d : Directory) (ending : Ending) : s.due d ending [] = outcome (s.finish d ending) := by
  unfold finish
  cases hover : s.isOver with
  | true =>
    rw [if_pos rfl, due, answerAll_of_isOver hover]
  | false =>
    have hmore := hwaits hover
    rw [if_neg Bool.false_ne_true, due, List.append_nil, Request.heard_of_more hmore]
    cases ending with
    | failure => rfl
    | cancelled => rfl
    | eof =>
      show _ = outcome (s.answer d (Request.drainAtEnd s.buffer))
      by_cases hnil : s.buffer = []
      · have hend : Request.scan.atEnd [] = .more := rfl
        rw [if_neg fun h => h.2 hnil, hnil, Request.drainAtEnd, Scan.drain_of_more hend, answer_nil]
        rfl
      · -- what is left over at a clean end is not legible
        have hend : Request.scan.atEnd s.buffer = .fail (.trailingBytes s.buffer.length) := by
          rw [Scan.atEnd, hmore]
          exact if_neg (by rwa [List.isEmpty_iff])
        rw [if_pos ⟨rfl, hnil⟩, Request.drainAtEnd, Scan.drain_of_fail hend,
          answer_refused hover d rfl, answerAll_invalid hover]
        rfl

end Serving

/-! ## Requests handled -/

namespace Connection

/-- **Requests handled one after another**: the responses to them, and the connection and
the directory after them. -/
def handleAll (c : Connection) (d : Directory) : List Request → List Response × Connection × Directory
  | [] => ([], c, d)
  | request :: rest =>
    let (reply, c, d) := c.handle d request
    let (responses, c, d) := handleAll c d rest
    (reply.response :: responses, c, d)

theorem handleAll_cons (c : Connection) (d : Directory) (request : Request)
    (rest : List Request) :
    let handled := c.handle d request
    let handledAll := handled.2.1.handleAll handled.2.2 rest
    c.handleAll d (request :: rest) = (handled.1.response :: handledAll.1, handledAll.2) := rfl

end Connection

namespace Serving

section Heard

variable (c : Connection) (d : Directory) (buffer : Bytes)

/-- A reply to a peer that takes whatever is written. -/
theorem send_of_none (reply : Reply) :
    ({ connection := c, buffer } : Serving).send reply
      = (reply.response.encode, { connection := c, buffer, isOver := reply.isLast }) := rfl

/-- A reply that the peer takes as a whole. -/
theorem send_of_le {n : Nat} {reply : Reply} (h : reply.response.encode.length ≤ n) :
    ({ connection := c, buffer, allowance := some n } : Serving).send reply
      = (reply.response.encode,
        { connection := c, buffer, allowance := some (n - reply.response.encode.length)
          isOver := reply.isLast }) := by
  unfold send write
  dsimp only
  rw [if_pos h]
  rfl

/-- A reply that the peer does not take as a whole. -/
theorem send_of_lt {n : Nat} {reply : Reply} (h : n < reply.response.encode.length) :
    ({ connection := c, buffer, allowance := some n } : Serving).send reply
      = (reply.response.encode.take n,
        { connection := c, buffer, allowance := some 0, isOver := true }) := by
  unfold send write
  dsimp only
  rw [if_neg (Nat.not_le.mpr h)]
  rfl

/-- A reply is the last one only if nothing is heard after it. -/
theorem answerAll_isLast {request : Request} {rest : List Request}
    (h : rest = [] ∨ ∀ line, request ≠ .invalid line) (allowance : Option Nat) :
    let handled := c.handle d request
    outcome (({ connection := handled.2.1, buffer, allowance, isOver := handled.1.isLast }
        : Serving).answerAll handled.2.2 rest)
      = outcome (({ connection := handled.2.1, buffer, allowance } : Serving).answerAll
        handled.2.2 rest) := by
  obtain rfl | hvalid := h
  · rfl
  · dsimp only
    rw [Connection.isLast_handle c d hvalid]

variable {requests : List Request}

/-- **A peer that takes whatever is written** gets all the responses. -/
theorem answerAll_none (h : Request.IsHeard requests) :
    outcome (({ connection := c, buffer } : Serving).answerAll d requests)
      = ((c.handleAll d requests).1.flatMap Response.encode, (c.handleAll d requests).2.2) := by
  induction requests generalizing c d with
  | nil => rfl
  | cons request rest ih =>
    rw [answerAll_cons_eq rfl, send_of_none, Connection.handleAll_cons]
    have hrest := ih (c.handle d request).2.1 (c.handle d request).2.2 h.2
    rw [← answerAll_isLast c d buffer h.1] at hrest
    exact congrArg (Prod.map (_ ++ ·) id) hrest

/-- **A peer that takes only so much** gets as much of the responses. -/
theorem answerAll_some (limit : Nat) (h : Request.IsHeard requests) :
    let responses := (c.handleAll d requests).1
    ∃ n ≤ requests.length,
      outcome (({ connection := c, buffer, allowance := some limit } : Serving).answerAll d
          requests)
        = ((responses.flatMap Response.encode).take limit,
          (c.handleAll d (requests.take (n + 1))).2.2)
      ∧ ((responses.take n).flatMap Response.encode).length ≤ limit
      ∧ (n = requests.length
        ∨ limit < ((responses.take (n + 1)).flatMap Response.encode).length) := by
  induction requests generalizing c d limit with
  | nil =>
    exact ⟨0, Nat.le_refl 0, congrArg (·, d) List.take_nil.symm, Nat.zero_le _, .inl rfl⟩
  | cons request rest ih =>
    rw [answerAll_cons_eq rfl, Connection.handleAll_cons]
    dsimp only
    rw [List.flatMap_cons]
    by_cases hfits : (c.handle d request).1.response.encode.length ≤ limit
    · -- the response is written, and as many of the others as still fit after it
      obtain ⟨n, hn, hrest, hwritten, hcut⟩ := ih (c.handle d request).2.1
        (c.handle d request).2.2 (limit - (c.handle d request).1.response.encode.length) h.2
      rw [← answerAll_isLast c d buffer h.1] at hrest
      refine ⟨n + 1, Nat.succ_le_succ hn, ?_, ?_, hcut.imp (congrArg Nat.succ) fun hlonger => ?_⟩
      · rw [send_of_le _ buffer hfits, List.take_append, List.take_of_length_le hfits,
          List.take_succ_cons, Connection.handleAll_cons]
        exact congrArg (Prod.map (_ ++ ·) id) hrest
      · rw [List.take_succ_cons, List.flatMap_cons, List.length_append]
        omega
      · rw [List.take_succ_cons, List.flatMap_cons, List.length_append]
        omega
    · -- it is cut, and nothing is handled after it
      have hcut := Nat.not_le.mp hfits
      refine ⟨0, Nat.zero_le _, ?_, Nat.zero_le _, .inr ?_⟩
      · rw [send_of_lt _ buffer hcut, List.take_append_of_le_length (Nat.le_of_lt hcut),
          answerAll_of_isOver rfl]
        exact congrArg (·, _) (List.append_nil _)
      · rw [List.take_succ_cons, List.flatMap_cons, List.length_append]
        omega

end Heard

end Serving

/-- **Serving a stream is answering what is heard of it**, for as long as the peer takes
the answers, however the stream is cut. -/
theorem serve_eq_answerAll (limit : Option Nat) (pieces : List Bytes) (ending : Ending)
    (d : Directory) :
    serve limit pieces ending d
      = Serving.outcome (({ allowance := limit } : Serving).answerAll d
        (Request.heard ending pieces.flatten)) := by
  have hwaits := Serving.scan_buffer_receiveAll (s := { allowance := limit }) (d := d)
    (fun _ => rfl) pieces
  have hall := ({ allowance := limit } : Serving).due_receiveAll d ending pieces
  rw [Serving.followedBy, Serving.due_finish hwaits] at hall
  exact hall.symm

/-- **What is cut off is the answer to the last request that is applied**, whatever the
stream, the directory and the number of bytes that the peer takes. It gets as many bytes
of the responses as it takes. If that is all of them, everything that was heard has been
applied; otherwise it is what was heard up to the first response that does not fit, and
this request is the only one whose response is not written to the end. -/
theorem written_until_cut (pieces : List Bytes) (ending : Ending) (d : Directory) :
    let c : Connection := {}
    let requests := Request.heard ending pieces.flatten
    let responses := (c.handleAll d requests).1
    serve none pieces ending d
        = (responses.flatMap Response.encode, (c.handleAll d requests).2.2)
      ∧ ∀ limit, ∃ n ≤ requests.length,
        serve (some limit) pieces ending d
            = ((responses.flatMap Response.encode).take limit,
              (c.handleAll d (requests.take (n + 1))).2.2)
          ∧ (responses.take n).flatMap Response.encode <+: (serve (some limit) pieces ending d).1
          ∧ (n = requests.length
            ∨ limit < ((responses.take (n + 1)).flatMap Response.encode).length) := by
  intro c requests responses
  have hheard : Request.IsHeard requests := Request.isHeard_heard ending pieces.flatten
  refine ⟨?_, fun limit => ?_⟩
  · rw [serve_eq_answerAll]
    exact Serving.answerAll_none c d [] hheard
  · obtain ⟨n, hn, hanswered, hwritten, hcut⟩ := Serving.answerAll_some c d [] limit hheard
    have hserve : serve (some limit) pieces ending d = _ :=
      (serve_eq_answerAll (some limit) pieces ending d).trans hanswered
    refine ⟨n, hn, hserve, ?_, hcut⟩
    rw [hserve, List.prefix_take_iff]
    refine ⟨?_, hwritten⟩
    have hall := congrArg (List.flatMap Response.encode) (List.take_append_drop n responses)
    rw [List.flatMap_append] at hall
    exact ⟨_, hall⟩

/-- The second answer is cut after its first letter, and the session is not closed. -/
example :
    serve (some 12) [utf8 "open\nopen\nclo", utf8 "se\n1\n"] .eof {}
      = (utf8 "accepted\n1\ne", { nextId := 2, entries := [{ id := 1, documents := [] }] }) := by
  decide +kernel

end Moorings.Session
