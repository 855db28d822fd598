import Mathlib.Data.List.Forall2
import Moorings.Proofs.Session.Delays

/-!
# Many requests before the first answer

A client may send one request after another and read the answers when they have come.
`Dialogue` is such a client with the stream that it reads from: what it sends, what the
server answers, what of that has arrived and what the client has read of it, in whatever
order these things happen.

What the word `success` means can only be told from the pipeline. If one request were
counted that has not been sent, or one answer took no request off the pipeline, each
later answer would be read as something else. Neither happens: the pipeline is always
what the requests after the last answer that was read expect (`Dialogue.InOrder`), and
so the answers are read one by one as they were given (`Dialogue.heard_of_run`).

The answers are those that the server may give, as it does (`Connection.meantBy_handle`),
with texts and contents within the limits.
-/

namespace Moorings.Session

namespace Response

instance (expect : Expect) (response : Response) : Decidable (response.MeantBy expect) :=
  match response with
  | document .. => inferInstanceAs (Decidable (expect = .document))
  | success => inferInstanceAs (Decidable (expect = .plain))
  | accepted _ | rejected _ | closed _ | error _ => isTrue trivial

/-- **Of a response that has not come as a whole** nothing is read. -/
theorem scan_of_front {response : Response} {expect : Expect} {front back : Bytes}
    (hmeant : response.MeantBy expect) (hfits : response.fits = true)
    (hfront : front ++ back = response.encode) (hback : back ≠ []) :
    scan expect front = .more := by
  have hwhole := scan_encode_of_fits hmeant hfits []
  rw [List.append_nil, ← hfront] at hwhole
  exact (stable_scan expect).more_of_front hwhole (List.length_pos_of_ne_nil hback)

end Response

namespace Request

/-- **What cannot be sent**: a name with a line feed in it, and a content that is too
long. -/
def IsRefused : Request → Prop
  | get name => '\n' ∈ name.toList
  | post name content => '\n' ∈ name.toList ∨ maxContent < content.utf8ByteSize
  | _ => False

/-- The one or the other. -/
theorem encode_cases (request : Request) :
    (∃ error, request.encode = .error error) ∧ request.IsRefused
      ∨ (∃ bytes, request.encode = .ok bytes) ∧ ¬request.IsRefused := by
  cases request with
  | get name =>
    cases h : (get name).encode with
    | error error =>
      refine .inl ⟨⟨error, rfl⟩, not_not.mp fun hname => ?_⟩
      cases h.symm.trans (encode_get_eq_ok_iff.mpr ⟨hname, rfl⟩)
    | ok bytes => exact .inr ⟨⟨bytes, rfl⟩, (encode_get_eq_ok_iff.mp h).1⟩
  | post name content =>
    cases h : (post name content).encode with
    | error error =>
      refine .inl ⟨⟨error, rfl⟩, not_not.mp fun hpost => ?_⟩
      obtain ⟨hname, hcontent⟩ := not_or.mp hpost
      cases h.symm.trans (encode_post_eq_ok_iff.mpr ⟨hname, Nat.not_lt.mp hcontent, rfl⟩)
    | ok bytes =>
      obtain ⟨hname, hcontent, -⟩ := encode_post_eq_ok_iff.mp h
      exact .inr ⟨⟨bytes, rfl⟩, not_or.mpr ⟨hname, Nat.not_lt.mpr hcontent⟩⟩
  | openSession => exact .inr ⟨⟨_, rfl⟩, id⟩
  | resume id => exact .inr ⟨⟨_, rfl⟩, not_false⟩
  | close id => exact .inr ⟨⟨_, rfl⟩, not_false⟩
  | invalid line => exact .inr ⟨⟨_, rfl⟩, not_false⟩

end Request

/-! ## A client that does not wait -/

/-- What can happen between a client and its server. -/
inductive Dialogue.Event where
  /-- The client sends a request, if it can be sent. -/
  | send (request : Request)
  /-- The server answers the first request that it has not answered. -/
  | answer (response : Response)
  /-- This many bytes arrive. -/
  | arrive (n : Nat)
  /-- The client tries to read an answer. -/
  | read (isEnded : Bool)

open Dialogue (Event)

/-- **A client that sends requests and reads answers** in whatever order it likes. -/
structure Dialogue where
  /-- The requests that have no answer yet, as the client knows of them. -/
  pipeline : Pipeline := {}
  /-- What the client has written. -/
  sent : Bytes := []
  /-- The requests that it has sent. -/
  asked : List Request := []
  /-- What the server has answered, in the same order. -/
  told : List Response := []
  /-- What the server has written and has not arrived. -/
  coming : Bytes := []
  /-- What has arrived and has not been read. -/
  inbox : Bytes := []
  /-- The answers that the client has read. -/
  heard : List Response := []

namespace Dialogue

/-- **What happens.** -/
def step (l : Dialogue) : Event → Dialogue
  | .send request =>
    match l.pipeline.send request with
    | .ok (bytes, pipeline) =>
      { l with pipeline, sent := l.sent ++ bytes, asked := l.asked ++ [request] }
    | .error _ => l
  | .answer response =>
    match l.asked[l.told.length]? with
    | some request =>
      if response.MeantBy request.expect ∧ response.fits = true then
        { l with told := l.told ++ [response], coming := l.coming ++ response.encode }
      else l
    | none => l
  | .arrive n => { l with inbox := l.inbox ++ l.coming.take n, coming := l.coming.drop n }
  | .read isEnded =>
    match l.pipeline.receive isEnded l.inbox with
    | (.done response rest, pipeline) =>
      { l with pipeline, inbox := rest, heard := l.heard ++ [response] }
    | (_, pipeline) => { l with pipeline }

/-- One thing after another. -/
def run : Dialogue → List Event → Dialogue := List.foldl step

/-! ## What is known of it -/

variable {l : Dialogue} {request : Request} {response : Response} {rest : Bytes}

/-- **Nothing is lost and nothing is taken for something else.** -/
structure InOrder (l : Dialogue) : Prop where
  pending : l.pipeline.pending = (l.asked.drop l.heard.length).map Request.expect
  heard : l.heard = (l.told.take l.heard.length).map Response.received
  stream : l.inbox ++ l.coming = (l.told.drop l.heard.length).flatMap Response.encode
  told_le : l.told.length ≤ l.asked.length
  meant : ∀ (n : Nat) (request : Request) (response : Response),
    l.asked[n]? = some request → l.told[n]? = some response →
    response.MeantBy request.expect ∧ response.fits = true
  sent : ∃ pieces, List.Forall₂ (fun request bytes => request.encode = .ok bytes) l.asked pieces
    ∧ l.sent = pieces.flatten

theorem inOrder_start : InOrder {} where
  pending := rfl
  heard := rfl
  stream := rfl
  told_le := Nat.le_refl 0
  meant _ _ _ h := nomatch h
  sent := ⟨[], List.Forall₂.nil, rfl⟩

/-- No answer is read that has not been given. -/
theorem InOrder.heard_le (h : InOrder l) : l.heard.length ≤ l.told.length := by
  have hlength := congrArg List.length h.heard
  rw [List.length_map, List.length_take] at hlength
  exact hlength ▸ Nat.min_le_right _ _

/-- **What the client has before it** begins with the next answer, and the client knows
how to read it. -/
theorem InOrder.front (h : InOrder l) (hnext : l.told[l.heard.length]? = some response) :
    response.MeantBy l.pipeline.expected ∧ response.fits = true
      ∧ l.inbox ++ l.coming
        = response.encode ++ (l.told.drop (l.heard.length + 1)).flatMap Response.encode := by
  obtain ⟨hlt, hget⟩ := List.getElem?_eq_some_iff.mp hnext
  obtain ⟨request, hasked⟩ : ∃ request, l.asked[l.heard.length]? = some request :=
    ⟨_, List.getElem?_eq_getElem (Nat.lt_of_lt_of_le hlt h.told_le)⟩
  have hexpected : l.pipeline.expected = request.expect := by
    rw [Pipeline.expected, h.pending, List.head?_map, List.head?_drop, hasked]
    rfl
  obtain ⟨hmeant, hfits⟩ := h.meant _ _ _ hasked hnext
  refine ⟨hexpected ▸ hmeant, hfits, ?_⟩
  rw [h.stream, List.drop_eq_getElem_cons hlt, hget, List.flatMap_cons]

/-- The next answer, when it has come. -/
theorem InOrder.receive_of_come (h : InOrder l)
    (hnext : l.told[l.heard.length]? = some response) (hcome : l.inbox = response.encode ++ rest)
    (isEnded : Bool) :
    l.pipeline.receive isEnded l.inbox
      = (.done response.received rest, { pending := l.pipeline.pending.tail }) := by
  obtain ⟨hmeant, hfits, -⟩ := h.front hnext
  rw [hcome]
  exact Pipeline.receive_of_done (Response.scan_encode_of_fits hmeant hfits rest) isEnded

/-- Nothing is read until it has. -/
theorem InOrder.receive_of_missing (h : InOrder l)
    (hmissing : ∀ response, l.told[l.heard.length]? = some response →
      ¬response.encode <+: l.inbox) (isEnded : Bool) :
    l.pipeline.receive isEnded l.inbox
      = (if isEnded = true ∧ l.inbox ≠ [] then .fail (.trailingBytes l.inbox.length) else .more,
        l.pipeline) := by
  refine Pipeline.receive_of_more ?_ isEnded
  cases hnext : l.told[l.heard.length]? with
  | none =>
    have hstream := h.stream
    rw [List.drop_eq_nil_iff.mpr (List.getElem?_eq_none_iff.mp hnext)] at hstream
    rw [(List.append_eq_nil_iff.mp hstream).1]
    rfl
  | some response =>
    obtain ⟨hmeant, hfits, hstream⟩ := h.front hnext
    have hprefix : l.inbox <+: response.encode :=
      (List.prefix_or_prefix_of_prefix (hstream ▸ List.prefix_append l.inbox l.coming)
        (List.prefix_append _ _)).resolve_right (hmissing response hnext)
    obtain ⟨back, hback⟩ := hprefix
    refine Response.scan_of_front hmeant hfits hback ?_
    rintro rfl
    rw [List.append_nil] at hback
    exact hmissing response hnext (hback ▸ List.prefix_rfl)

/-! ## Each of the things that can happen -/

/-- A request that is refused leaves everything as it is, and no other does. -/
theorem step_send_eq_self_iff : l.step (.send request) = l ↔ request.IsRefused := by
  obtain ⟨⟨error, hencode⟩, hrefused⟩ | ⟨⟨bytes, hencode⟩, haccepted⟩ := request.encode_cases
  · have hstep : l.step (.send request) = l := by
      simp only [step, Pipeline.send, hencode]
      rfl
    exact iff_of_true hstep hrefused
  · refine iff_of_false (fun hstep => ?_) haccepted
    have hasked : (l.step (.send request)).asked = l.asked ++ [request] := by
      simp only [step, Pipeline.send, hencode]
      rfl
    rw [hstep] at hasked
    exact List.cons_ne_nil request [] (List.append_right_eq_self.mp hasked.symm)

theorem InOrder.send (h : InOrder l) (request : Request) : InOrder (l.step (.send request)) := by
  obtain ⟨-, hrefused⟩ | ⟨⟨bytes, hencode⟩, -⟩ := request.encode_cases
  · rw [step_send_eq_self_iff.mpr hrefused]
    exact h
  · have hsend : l.pipeline.send request
        = .ok (bytes, { pending := l.pipeline.pending ++ [request.expect] }) :=
      Pipeline.send_eq_ok_iff.mpr ⟨hencode, rfl⟩
    have hle := Nat.le_trans h.heard_le h.told_le
    simp only [step, hsend]
    exact {
      pending := by
        rw [h.pending, List.drop_append_of_le_length hle, List.map_append]
        rfl
      heard := h.heard
      stream := h.stream
      told_le := by
        rw [List.length_append]
        exact Nat.le_add_right_of_le h.told_le
      meant := fun n asked response hasked htold => by
        have hlt := (List.getElem?_eq_some_iff.mp htold).1
        rw [List.getElem?_append_left (Nat.lt_of_lt_of_le hlt h.told_le)] at hasked
        exact h.meant n asked response hasked htold
      sent := by
        obtain ⟨pieces, hpieces, hsent⟩ := h.sent
        refine ⟨pieces ++ [bytes], List.rel_append hpieces (.cons hencode .nil), ?_⟩
        rw [hsent, List.flatten_concat] }

theorem InOrder.answer (h : InOrder l) (response : Response) :
    InOrder (l.step (.answer response)) := by
  unfold step
  dsimp only
  split
  · rename_i request hrequest
    split
    · rename_i hanswer
      exact {
        pending := h.pending
        heard := by
          rw [List.take_append_of_le_length h.heard_le]
          exact h.heard
        stream := by
          rw [← List.append_assoc, h.stream, List.drop_append_of_le_length h.heard_le,
            List.flatMap_append, List.flatMap_singleton]
        told_le := by
          rw [List.length_append]
          exact (List.getElem?_eq_some_iff.mp hrequest).1
        meant := fun n asked told hasked htold => by
          obtain hlt | hge := Nat.lt_or_ge n l.told.length
          · rw [List.getElem?_append_left hlt] at htold
            exact h.meant n asked told hasked htold
          · -- the one that has just been given
            have hlt : n < (l.told ++ [response]).length := (List.getElem?_eq_some_iff.mp htold).1
            rw [List.length_append, List.length_singleton] at hlt
            obtain rfl : n = l.told.length := Nat.le_antisymm (Nat.le_of_lt_succ hlt) hge
            rw [List.getElem?_concat_length] at htold
            cases htold
            cases hrequest.symm.trans hasked
            exact hanswer
        sent := h.sent }
    · exact h
  · exact h

theorem InOrder.arrive (h : InOrder l) (n : Nat) : InOrder (l.step (.arrive n)) :=
  { h with
    stream := by
      show l.inbox ++ l.coming.take n ++ l.coming.drop n = _
      rw [List.append_assoc, List.take_append_drop]
      exact h.stream }

/-- **What reading does**: nothing, or it takes the next answer. -/
theorem InOrder.step_read_cases (h : InOrder l) (isEnded : Bool) :
    l.step (.read isEnded) = l
      ∨ ∃ response rest, l.told[l.heard.length]? = some response
        ∧ l.inbox = response.encode ++ rest
        ∧ l.step (.read isEnded) = { l with
            pipeline := { pending := l.pipeline.pending.tail }, inbox := rest
            heard := l.heard ++ [response.received] } := by
  by_cases hcome : ∃ response, l.told[l.heard.length]? = some response
    ∧ response.encode <+: l.inbox
  · obtain ⟨response, hnext, rest, hrest⟩ := hcome
    refine .inr ⟨response, rest, hnext, hrest.symm, ?_⟩
    simp only [step, h.receive_of_come hnext hrest.symm]
  · left
    have hreceive := h.receive_of_missing
      (fun response hnext hprefix => hcome ⟨response, hnext, hprefix⟩) isEnded
    unfold step
    dsimp only
    rw [hreceive]
    split
    · rename_i hdone
      split at hdone <;> cases hdone
    · rename_i hmore
      cases hmore
      rfl

theorem InOrder.read (h : InOrder l) (isEnded : Bool) : InOrder (l.step (.read isEnded)) := by
  obtain hsame | ⟨response, rest, hnext, hcome, hstep⟩ := h.step_read_cases isEnded
  · rw [hsame]
    exact h
  · have hlength : (l.heard ++ [response.received]).length = l.heard.length + 1 :=
      List.length_append
    rw [hstep]
    exact {
      pending := by
        show l.pipeline.pending.tail = (l.asked.drop (l.heard ++ [_]).length).map Request.expect
        rw [hlength, h.pending, ← List.tail_drop, List.map_tail]
      heard := by
        show _ = (l.told.take (l.heard ++ [_]).length).map Response.received
        rw [hlength, List.take_add_one, hnext, List.map_append, ← h.heard]
        rfl
      stream := by
        obtain ⟨-, -, hstream⟩ := h.front hnext
        rw [hcome, List.append_assoc] at hstream
        show rest ++ l.coming = (l.told.drop (l.heard ++ [_]).length).flatMap Response.encode
        rw [hlength]
        exact List.append_cancel_left hstream
      told_le := h.told_le
      meant := h.meant
      sent := h.sent }

/-- **Whatever happens, this stays true.** -/
theorem InOrder.step (h : InOrder l) (event : Event) : InOrder (l.step event) := by
  cases event with
  | send request => exact h.send request
  | answer response => exact h.answer response
  | arrive n => exact h.arrive n
  | read isEnded => exact h.read isEnded

/-- So it is true of all that can happen. -/
theorem inOrder_run (events : List Event) : InOrder (run {} events) :=
  List.foldlRecOn events Dialogue.step inOrder_start fun _ h event _ => h.step event

/-- When all that was on its way has arrived, the client has only to read. -/
theorem InOrder.heard_of_reads (h : InOrder l) (hcoming : l.coming = []) :
    (l.run (List.replicate (l.told.length - l.heard.length) (.read false))).heard
      = l.told.map Response.received := by
  generalize hleft : l.told.length - l.heard.length = n
  induction n generalizing l with
  | zero =>
    have hheard := h.heard
    rwa [List.take_of_length_le (Nat.sub_eq_zero_iff_le.mp hleft)] at hheard
  | succ n ih =>
    have hlt : l.heard.length < l.told.length := Nat.lt_of_sub_eq_succ hleft
    have hnext := List.getElem?_eq_getElem hlt
    obtain ⟨-, -, hstream⟩ := h.front hnext
    rw [hcoming, List.append_nil] at hstream
    have hstep : l.step (.read false) = { l with
        pipeline := { pending := l.pipeline.pending.tail }
        inbox := (l.told.drop (l.heard.length + 1)).flatMap Response.encode
        heard := l.heard ++ [l.told[l.heard.length].received] } := by
      simp only [Dialogue.step, h.receive_of_come hnext hstream]
    have hread := h.read false
    rw [hstep] at hread
    rw [List.replicate_succ, run, List.foldl_cons, hstep]
    refine ih hread hcoming ?_
    show l.told.length - (l.heard ++ [_]).length = n
    rw [List.length_append, List.length_singleton, Nat.sub_add_eq, hleft]
    rfl

/-- **Answers are read one by one as they were given**, however many requests are on
their way and however the stream is cut. What has been read are the first answers, with
a space for each line break in a text and each content as it was. What is pending is
always what the requests after them expect, in their order. The next answer is read as
soon as it has come as a whole, and nothing is read before. When everything has come,
everything can be read. A request that is refused leaves all as it is, and what was
written are only the others. -/
theorem heard_of_run (events : List Event) :
    let l := run {} events
    l.heard = (l.told.take l.heard.length).map Response.received
      ∧ l.pipeline.pending = (l.asked.drop l.heard.length).map Request.expect
      ∧ l.heard.length ≤ l.told.length ∧ l.told.length ≤ l.asked.length
      ∧ (∀ response rest isEnded, l.told[l.heard.length]? = some response →
        l.inbox = response.encode ++ rest →
        l.pipeline.receive isEnded l.inbox
          = (.done response.received rest, { pending := l.pipeline.pending.tail }))
      ∧ (∀ isEnded, (∀ response, l.told[l.heard.length]? = some response →
          ¬response.encode <+: l.inbox) →
        l.pipeline.receive isEnded l.inbox
          = (if isEnded = true ∧ l.inbox ≠ [] then .fail (.trailingBytes l.inbox.length)
            else .more, l.pipeline))
      ∧ (l.run (.arrive l.coming.length
          :: List.replicate (l.told.length - l.heard.length) (.read false))).heard
        = l.told.map Response.received
      ∧ (∃ pieces, List.Forall₂ (fun request bytes => request.encode = .ok bytes) l.asked pieces
        ∧ l.sent = pieces.flatten)
      ∧ ∀ request, l.step (.send request) = l ↔ request.IsRefused := by
  intro l
  have h : InOrder l := inOrder_run events
  refine ⟨h.heard, h.pending, h.heard_le, h.told_le,
    fun response rest isEnded hnext hcome => h.receive_of_come hnext hcome isEnded,
    fun isEnded hmissing => h.receive_of_missing hmissing isEnded, ?_, h.sent,
    fun request => step_send_eq_self_iff⟩
  exact (h.arrive l.coming.length).heard_of_reads List.drop_length

/-- A get that is answered with an error, and a request in between that is refused. The
post after them is answered with the word `success` alone, and the next `success` is a
document again, of which the content reads like an answer. -/
theorem heard_of_run_after_error :
    let l := run {} [.send .openSession, .send (.get "a"), .send (.get "b\nc"),
      .answer (.accepted 7), .arrive 5, .read false, .send (.post "a" "closed\n7\n"),
      .answer (.error "no\ndocument"), .answer .success, .arrive 100, .read false,
      .read false, .read false, .send (.get "a"), .answer (.document "a" "closed\n7\n"),
      .arrive 100]
    l.heard = [.accepted 7, .error "no document", .success]
      ∧ l.asked = [.openSession, .get "a", .post "a" "closed\n7\n", .get "a"]
      ∧ l.pipeline.receive true l.inbox = (.done (.document "a" "closed\n7\n") [], {}) := by
  intro l
  obtain ⟨-, -, -, -, hcome, -⟩ := heard_of_run [.send .openSession, .send (.get "a"),
    .send (.get "b\nc"), .answer (.accepted 7), .arrive 5, .read false,
    .send (.post "a" "closed\n7\n"), .answer (.error "no\ndocument"), .answer .success,
    .arrive 100, .read false, .read false, .read false, .send (.get "a"),
    .answer (.document "a" "closed\n7\n"), .arrive 100]
  exact ⟨by decide, by decide,
    hcome (.document "a" "closed\n7\n") [] true (by decide) (by decide)⟩

end Dialogue

end Moorings.Session
