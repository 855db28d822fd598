import Moorings.Session.Serving
import Moorings.Proofs.Session.Framing

/-!
# A stream is served as a whole

A stream arrives in pieces, and a serving reads what it can after each of them.
`Connection.answerWhole` is what is meant by it: the stream read from its front,
each request answered in turn, until there is something that is no request or
the stream ends. It has no buffer, no pieces and no state but what the
connection holds.

The main statement is that the two agree for every way of cutting the stream
and for each of its endings (`serve_eq_answerWhole`), with what it means for
bytes that come too late and for the content of a document. What carries it is
that a serving which has gone through some of the stream has still to give
exactly the rest of the answer: `Serving.remainder` is that rest, and every
piece moves a part of it into what is written (`remainder_receive`). Reading too
early does no harm because requests are stable.
-/

namespace Moorings.Session

open Text (utf8)

/-- The bytes of the answer to what is no request. -/
def refusalBytes : Bytes := (Response.error invalidCommand).encode

/-- **A whole stream answered**: what is written, and the directory afterwards.
Something that is no request, or not legible, is answered with a refusal and is
the last that is read. At a clean end of the stream, so are bytes that are not a
whole request; if the transport failed or the connection was cancelled, they
are not answered. -/
def Connection.answerWhole (c : Connection) (d : Directory) (ending : Ending) (stream : Bytes) :
    Bytes × Directory :=
  match _e : Request.scan stream with
  | .done request rest =>
    match request with
    | .invalid _ => (refusalBytes, d)
    | request =>
      let answered := c.handle d request
      let more := answered.2.1.answerWhole answered.2.2 ending rest
      (answered.1.response.encode ++ more.1, more.2)
  | .fail _ => (refusalBytes, d)
  | .more => if ending = .eof ∧ stream ≠ [] then (refusalBytes, d) else ([], d)
termination_by stream.length
decreasing_by exact Request.consumes_scan _e

namespace Connection

variable {c : Connection} {d : Directory} {ending : Ending} {stream rest : Bytes}

theorem answerWhole_of_invalid {line : String}
    (h : Request.scan stream = .done (.invalid line) rest) :
    c.answerWhole d ending stream = (refusalBytes, d) := by
  rw [answerWhole]
  split
  · rename_i request rest' e
    cases h.symm.trans e
    rfl
  · rename_i error e
    cases h.symm.trans e
  · rename_i e
    cases h.symm.trans e

theorem answerWhole_of_done {request : Request} (h : Request.scan stream = .done request rest)
    (hvalid : ∀ line, request ≠ .invalid line) :
    c.answerWhole d ending stream
      = ((c.handle d request).1.response.encode
          ++ ((c.handle d request).2.1.answerWhole (c.handle d request).2.2 ending rest).1,
        ((c.handle d request).2.1.answerWhole (c.handle d request).2.2 ending rest).2) := by
  rw [answerWhole]
  split
  · rename_i request' rest' e
    cases h.symm.trans e
    split
    · exact absurd rfl (hvalid _)
    · rfl
  · rename_i error e
    cases h.symm.trans e
  · rename_i e
    cases h.symm.trans e

theorem answerWhole_of_fail {error : ProtocolError} (h : Request.scan stream = .fail error) :
    c.answerWhole d ending stream = (refusalBytes, d) := by
  rw [answerWhole]
  split
  · rename_i request rest e
    cases h.symm.trans e
  · rfl
  · rename_i e
    cases h.symm.trans e

theorem answerWhole_of_more (h : Request.scan stream = .more) :
    c.answerWhole d ending stream
      = if ending = .eof ∧ stream ≠ [] then (refusalBytes, d) else ([], d) := by
  rw [answerWhole]
  split
  · rename_i request rest e
    cases h.symm.trans e
  · rename_i error e
    cases h.symm.trans e
  · rfl

/-- **Only what is no request is answered for the last time.** -/
theorem isLast_handle (c : Connection) (d : Directory) {request : Request}
    (hvalid : ∀ line, request ≠ .invalid line) : (c.handle d request).1.isLast = false := by
  cases request with
  | openSession =>
    show (c.openSession d).1.isLast = false
    unfold openSession
    split <;> rfl
  | resume id =>
    show (c.resume d id).1.isLast = false
    unfold resume
    split
    · rfl
    · split <;> rfl
  | close id =>
    show (c.close d id).1.isLast = false
    unfold close
    split <;> rfl
  | get name =>
    show (c.get d name).isLast = false
    unfold get
    split
    · rfl
    · split <;> rfl
  | post name content =>
    show (c.post d name content).1.isLast = false
    unfold post
    split
    · rfl
    · split <;> rfl
  | invalid line => exact absurd rfl (hvalid line)

/-! ## Bytes without effect -/

/-- **What ends the reading ends the answering**: neither what comes after it
nor how the stream ends makes a difference. -/
theorem answerWhole_of_endsReading (c : Connection) (d : Directory) (h : EndsReading stream)
    (ending ending' : Ending) (suffix : Bytes) :
    c.answerWhole d ending' (stream ++ suffix) = c.answerWhole d ending stream := by
  induction hn : stream.length using Nat.strongRecOn generalizing stream c d with
  | ind n ih =>
    subst hn
    cases hs : Request.scan stream with
    | more => exact absurd hs h.ne_more
    | fail error =>
      rw [answerWhole_of_fail hs, answerWhole_of_fail (Request.stable_scan.fail hs suffix)]
    | done request rest =>
      have hdone := Request.stable_scan.done hs suffix
      by_cases hvalid : ∀ line, request ≠ .invalid line
      · -- what ends the reading is in the rest
        have hrest := ih rest.length (Request.consumes_scan hs) (c.handle d request).2.1
          (c.handle d request).2.2 (h.of_done hs hvalid) rfl
        rw [answerWhole_of_done hs hvalid, answerWhole_of_done hdone hvalid, hrest]
      · obtain ⟨line, hline⟩ := not_forall.mp hvalid
        obtain rfl := not_not.mp hline
        rw [answerWhole_of_invalid hs, answerWhole_of_invalid hdone]

/-- **A post answered** whose front has been read. If the bytes are too few, it
is not a whole request; otherwise as many as were announced are its content,
and the rest of the stream comes after them. -/
def answerPost (c : Connection) (d : Directory) (ending : Ending) (head : PostHead)
    (bytes : Bytes) : Bytes × Directory :=
  if bytes.length < head.count then if ending = .eof then (refusalBytes, d) else ([], d)
  else
    match head.request (bytes.take head.count) with
    | .post name content =>
      let posted := c.post d name content
      let more := c.answerWhole posted.2 ending (bytes.drop head.count)
      (posted.1.response.encode ++ more.1, more.2)
    | _ => (refusalBytes, d)

/-- After the front of a post there is nothing but its content, and what comes
after the content. -/
theorem answerWhole_before (c : Connection) (d : Directory) (ending : Ending) (head : PostHead)
    (bytes : Bytes) :
    c.answerWhole d ending (head.before bytes) = c.answerPost d ending head bytes := by
  have hscan := head.scan_before bytes
  unfold answerPost
  by_cases hshort : bytes.length < head.count
  · rw [if_pos hshort] at hscan ⊢
    have hne : head.before bytes ≠ [] := by
      intro hnil
      obtain ⟨-, hcons⟩ := List.append_eq_nil_iff.mp hnil
      cases hcons
    rw [answerWhole_of_more hscan]
    by_cases hending : ending = .eof
    · rw [if_pos ⟨hending, hne⟩, if_pos hending]
    · rw [if_neg fun h => hending h.1, if_neg hending]
  · rw [if_neg hshort] at hscan ⊢
    unfold PostHead.request at hscan ⊢
    split at hscan
    · rw [answerWhole_of_done hscan (fun _ h => Request.noConfusion h)]
      rfl
    · rw [answerWhole_of_invalid hscan]

end Connection

namespace Serving

/-! ## One buffer answered

The peer takes whatever is written, so a serving that is not over is a
connection and a buffer, and one that is over is nothing any more. -/

variable {c : Connection} {d : Directory} {buffer : Bytes}

theorem answerAll_of_isOver {s : Serving} (h : s.isOver = true) (requests : List Request) :
    s.answerAll d requests = ([], s, d) := by
  cases requests with
  | nil => rfl
  | cons request rest => rw [answerAll, if_pos h]

/-- The first of some requests is answered, and then the others are. -/
theorem answerAll_cons (c : Connection) (d : Directory) (buffer : Bytes) (request : Request)
    (rest : List Request) :
    let answered := c.handle d request
    let s : Serving := { connection := answered.2.1, buffer, isOver := answered.1.isLast }
    ({ connection := c, buffer } : Serving).answerAll d (request :: rest)
      = (answered.1.response.encode ++ (s.answerAll answered.2.2 rest).1,
        (s.answerAll answered.2.2 rest).2) := by
  rw [answerAll, if_neg Bool.false_ne_true]
  rfl

/-- What is done with what was not legible, after some answers. -/
def settle (answered : Bytes × Serving × Directory) (error : Option ProtocolError) :
    Bytes × Serving × Directory :=
  if answered.2.1.isOver then answered
  else
    match error with
    | none => answered
    | some error =>
      if error.isTransport then
        (answered.1, { answered.2.1 with isOver := true }, answered.2.2)
      else
        (answered.1 ++ (answered.2.1.send .refusal).1, (answered.2.1.send .refusal).2,
          answered.2.2)

theorem answer_eq (s : Serving) (d : Directory) (batch : Batch Request) :
    s.answer d batch
      = settle ({ s with buffer := batch.left }.answerAll d batch.items) batch.error := rfl

/-- What was written before stays in front. -/
theorem settle_append (front : Bytes) (answered : Bytes × Serving × Directory)
    (error : Option ProtocolError) :
    settle (front ++ answered.1, answered.2) error
      = (front ++ (settle answered error).1, (settle answered error).2) := by
  unfold settle
  dsimp only
  split
  · rfl
  · split
    · rfl
    · split
      · rfl
      · rw [List.append_assoc]

/-- **A last answer**: whatever else has been taken from the buffer is not
answered any more. -/
theorem answer_of_isLast {request : Request}
    (hlast : (c.handle d request).1.isLast = true) (batch : Batch Request) :
    ({ connection := c, buffer } : Serving).answer d
        { batch with items := request :: batch.items }
      = ((c.handle d request).1.response.encode,
        { connection := (c.handle d request).2.1, buffer := batch.left, isOver := true },
        (c.handle d request).2.2) := by
  rw [answer_eq, answerAll_cons, hlast, answerAll_of_isOver rfl, List.append_nil]
  rfl

/-- **An answer that is not the last**: the rest of what has been taken is
answered after it. -/
theorem answer_of_not_isLast {request : Request}
    (hlast : (c.handle d request).1.isLast = false) (batch : Batch Request) :
    let s : Serving := { connection := (c.handle d request).2.1, buffer }
    ({ connection := c, buffer } : Serving).answer d
        { batch with items := request :: batch.items }
      = ((c.handle d request).1.response.encode ++ (s.answer (c.handle d request).2.2 batch).1,
        (s.answer (c.handle d request).2.2 batch).2) := by
  rw [answer_eq, answerAll_cons, hlast, settle_append]
  rfl

/-- What is not legible is refused, and nothing is answered any more. -/
theorem answer_of_error {error : ProtocolError} (herror : error.isTransport = false)
    (left : Bytes) :
    ({ connection := c, buffer } : Serving).answer d
        { items := [], error := some error, left }
      = (refusalBytes, { connection := c, buffer := left, isOver := true }, d) := by
  rw [answer_eq]
  show (if error.isTransport then _ else _) = _
  rw [herror]
  rfl

/-! ## Piece after piece -/

/-- **A serving in good order**: the peer takes whatever is written, and what is
in the buffer is not a whole request. -/
structure IsWaiting (s : Serving) : Prop where
  unlimited : s.allowance = none
  waits : s.isOver = false → Request.scan s.buffer = .more

/-- What is still to be answered, if the stream goes on with these bytes. -/
def remainder (s : Serving) (d : Directory) (ending : Ending) (stream : Bytes) :
    Bytes × Directory :=
  if s.isOver then ([], d) else s.connection.answerWhole d ending (s.buffer ++ stream)

/-- **A buffer answered**: the serving is in good order again, and what it has
written is what the whole stream has to be answered with before the
remainder. -/
theorem answer_drain (c : Connection) (d : Directory) (old buffer : Bytes) :
    let s := ({ connection := c, buffer := old } : Serving).answer d (Request.drain buffer)
    s.2.1.IsWaiting ∧ ∀ ending stream, c.answerWhole d ending (buffer ++ stream)
      = (s.1 ++ (s.2.1.remainder s.2.2 ending stream).1,
        (s.2.1.remainder s.2.2 ending stream).2) := by
  induction hn : buffer.length using Nat.strongRecOn generalizing buffer c d with
  | ind n ih =>
    subst hn
    cases hs : Request.scan buffer with
    | more =>
      rw [Request.drain, Scan.drain_of_more hs]
      exact ⟨⟨rfl, fun _ => hs⟩, fun _ _ => rfl⟩
    | fail error =>
      rw [Request.drain, Scan.drain_of_fail hs,
        answer_of_error (Request.blamesBytes_scan hs)]
      refine ⟨⟨rfl, Bool.noConfusion⟩, fun ending stream => ?_⟩
      rw [Connection.answerWhole_of_fail (Request.stable_scan.fail hs stream)]
      exact congrArg (·, d) (List.append_nil _).symm
    | done request rest =>
      have hdone := fun stream => Request.stable_scan.done hs stream
      rw [Request.drain, Scan.drain_of_done hs]
      by_cases hvalid : ∀ line, request ≠ .invalid line
      · -- the request is answered, and the rest of the buffer by the induction hypothesis
        obtain ⟨hwaiting, hwhole⟩ := ih rest.length (Request.consumes_scan hs)
          (c.handle d request).2.1 (c.handle d request).2.2 rest rfl
        rw [answer_of_not_isLast (Connection.isLast_handle c d hvalid)]
        refine ⟨hwaiting, fun ending stream => ?_⟩
        rw [Connection.answerWhole_of_done (hdone stream) hvalid, hwhole ending stream]
        exact congrArg (·, _) (List.append_assoc _ _ _).symm
      · -- a request that is none is the last
        obtain ⟨line, hline⟩ := not_forall.mp hvalid
        obtain rfl := not_not.mp hline
        rw [answer_of_isLast rfl]
        refine ⟨⟨rfl, Bool.noConfusion⟩, fun ending stream => ?_⟩
        rw [Connection.answerWhole_of_invalid (hdone stream)]
        exact congrArg (·, d) (List.append_nil _).symm

/-- **A piece received**: what is written for it is the first part of what is
still to be answered. -/
theorem remainder_receive {s : Serving} (h : s.IsWaiting) (d : Directory) (piece : Bytes) :
    (s.receive d piece).2.1.IsWaiting ∧ ∀ ending stream,
      s.remainder d ending (piece ++ stream)
        = ((s.receive d piece).1
            ++ ((s.receive d piece).2.1.remainder (s.receive d piece).2.2 ending stream).1,
          ((s.receive d piece).2.1.remainder (s.receive d piece).2.2 ending stream).2) := by
  obtain ⟨c, buffer, allowance, isOver⟩ := s
  obtain rfl : allowance = none := h.unlimited
  cases isOver with
  | true => exact ⟨h, fun _ _ => rfl⟩
  | false =>
    obtain ⟨hwaiting, hwhole⟩ := answer_drain c d buffer (buffer ++ piece)
    refine ⟨hwaiting, fun ending stream => ?_⟩
    show c.answerWhole d ending (buffer ++ (piece ++ stream)) = _
    rw [← List.append_assoc]
    exact hwhole ending stream

/-- **The end of the stream**: what is written at it is all that is still to be
answered. -/
theorem remainder_finish {s : Serving} (h : s.IsWaiting) (d : Directory) (ending : Ending) :
    s.remainder d ending [] = ((s.finish d ending).1, (s.finish d ending).2.2) := by
  obtain ⟨c, buffer, allowance, isOver⟩ := s
  obtain rfl : allowance = none := h.unlimited
  cases isOver with
  | true => rfl
  | false =>
    have hmore : Request.scan buffer = .more := h.waits rfl
    show c.answerWhole d ending (buffer ++ []) = _
    rw [List.append_nil, Connection.answerWhole_of_more hmore]
    cases ending with
    | failure => rfl
    | cancelled => rfl
    | eof =>
      show _ = ((answer _ d (Request.drainAtEnd buffer)).1,
        (answer _ d (Request.drainAtEnd buffer)).2.2)
      cases buffer with
      | nil =>
        have hend : Request.scan.atEnd [] = .more := by rw [Scan.atEnd, hmore]; rfl
        rw [Request.drainAtEnd, Scan.drain_of_more hend]
        rfl
      | cons b rest =>
        -- what is left over at a clean end is not legible
        have hend : Request.scan.atEnd (b :: rest)
            = .fail (.trailingBytes (b :: rest).length) := by rw [Scan.atEnd, hmore]; rfl
        rw [Request.drainAtEnd, Scan.drain_of_fail hend, answer_of_error rfl]
        rfl

/-- All the pieces of the stream. -/
theorem remainder_receiveAll {s : Serving} (h : s.IsWaiting) (d : Directory)
    (pieces : List Bytes) :
    (s.receiveAll d pieces).2.1.IsWaiting ∧ ∀ ending,
      s.remainder d ending pieces.flatten
        = ((s.receiveAll d pieces).1
            ++ ((s.receiveAll d pieces).2.1.remainder (s.receiveAll d pieces).2.2 ending []).1,
          ((s.receiveAll d pieces).2.1.remainder (s.receiveAll d pieces).2.2 ending []).2) := by
  induction pieces generalizing s d with
  | nil => exact ⟨h, fun _ => rfl⟩
  | cons piece pieces ih =>
    obtain ⟨hpiece, hreceive⟩ := remainder_receive h d piece
    obtain ⟨hrest, hreceiveAll⟩ := ih hpiece (s.receive d piece).2.2
    refine ⟨hrest, fun ending => ?_⟩
    rw [List.flatten_cons, hreceive, hreceiveAll]
    exact congrArg (·, _) (List.append_assoc _ _ _).symm

end Serving

/-- What a serving comes to is what the whole stream is answered with. -/
theorem serve_none (pieces : List Bytes) (ending : Ending) (d : Directory) :
    serve none pieces ending d
      = ({} : Connection).answerWhole d ending pieces.flatten := by
  have hstart : ({} : Serving).IsWaiting := ⟨rfl, fun _ => rfl⟩
  obtain ⟨hend, hreceiveAll⟩ := Serving.remainder_receiveAll hstart d pieces
  have hwhole := hreceiveAll ending
  rw [Serving.remainder_finish hend] at hwhole
  exact hwhole.symm

/-- **How a stream is cut makes no difference**, whatever its bytes, its ending
and the sessions that are open: serving its pieces writes the bytes and leaves
the directory that answering the whole does. So whatever comes after the first
thing that is no request or not legible is without effect, and the content of a
document is never read as a request, whether all of it comes or not. -/
theorem serve_eq_answerWhole (pieces : List Bytes) (ending : Ending) (d : Directory) :
    serve none pieces ending d = ({} : Connection).answerWhole d ending pieces.flatten
      ∧ (EndsReading pieces.flatten → ∀ (more : List Bytes) (ending' : Ending),
        serve none (pieces ++ more) ending' d = serve none pieces ending d)
      ∧ ∀ (c : Connection) (head : PostHead) (bytes : Bytes),
        c.answerWhole d ending (head.before bytes) = c.answerPost d ending head bytes := by
  refine ⟨serve_none pieces ending d, fun hends more ending' => ?_, fun c head bytes =>
    c.answerWhole_before d ending head bytes⟩
  rw [serve_none, serve_none, List.flatten_append]
  exact Connection.answerWhole_of_endsReading {} d hends ending ending' more.flatten

/-- A content that reads like a request is cut in two, and what is no request
follows it. The session is not closed: neither by the content nor by the bytes
that come too late. -/
theorem content_not_read_as_request :
    let pieces := [utf8 "open\npost\nbook\n8\nclo", utf8 "se\n1\nclosed?\n"]
    EndsReading pieces.flatten
      ∧ serve none (pieces ++ [utf8 "close\n1\n"]) .failure {} = serve none pieces .eof {}
      ∧ (serve none pieces .eof {}).2
        = { nextId := 2,
            entries :=
              [{ id := 1, documents := [{ name := "book", content := "close\n1\n" }] }] } := by
  intro pieces
  have hopen : Request.scan pieces.flatten
      = .done .openSession (utf8 "post\nbook\n8\nclose\n1\nclosed?\n") := rfl
  have hpost : Request.scan (utf8 "post\nbook\n8\nclose\n1\nclosed?\n")
      = .done (.post "book" "close\n1\n") (utf8 "closed?\n") := rfl
  have hinvalid : Request.scan (utf8 "closed?\n") = .done (.invalid "closed?") [] := rfl
  have hends : EndsReading pieces.flatten := by
    refine .inl ⟨"closed?", ?_⟩
    rw [Request.drain, Scan.drain_of_done hopen, Scan.drain_of_done hpost,
      Scan.drain_of_done hinvalid]
    exact .tail _ (.tail _ (.head _))
  obtain ⟨hwhole, hsuffix, -⟩ := serve_eq_answerWhole pieces .eof {}
  refine ⟨hends, hsuffix hends _ _, ?_⟩
  rw [hwhole, Connection.answerWhole_of_done hopen (fun _ h => Request.noConfusion h),
    Connection.answerWhole_of_done hpost (fun _ h => Request.noConfusion h),
    Connection.answerWhole_of_invalid hinvalid]
  rfl

end Moorings.Session
