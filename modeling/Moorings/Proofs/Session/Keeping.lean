import Moorings.Proofs.Session.Answering
import Moorings.Proofs.Session.WholeStream

/-!
# What is kept can be given back

The directory keeps whatever it is given, under whatever name. That no name in it is too
long for a line, and no content too long to be sent, comes from the limits of reading:
whoever sends the bytes, what is read of them is within the limits
(`Request.yields_scan`), and a document gets into the directory in no other way.

`Streams` are any number of connections to one directory, each with the stream that is
served on it. A piece of a stream may be as short as a byte, so that connections may take
turns at every request. Whatever arrives on whichever of them, and however they end, the
directory is within the limits, and so everything in it can be got back as it is
(`Streams.kept_within_limits`). A name may have carriage returns in it, which come back as
spaces, but these have no part in where its line ends.
-/

namespace Moorings.Session

open Text (utf8)

/-! ## Within the limits -/

/-- A document whose name fits on a line, and whose content is not too long to be sent. -/
structure Document.IsWithinLimits (document : Document) : Prop where
  name : IsName document.name
  content : document.content.utf8ByteSize ≤ maxContent

/-- **A directory of which every document is within the limits.** -/
def Directory.IsWithinLimits (d : Directory) : Prop :=
  ∀ entry ∈ d.entries, ∀ document ∈ entry.documents, document.IsWithinLimits

/-- A session that has been given another document within the limits. -/
theorem Entry.isWithinLimits_of_mem_put {entry : Entry} {name content : String}
    (hentry : ∀ document ∈ entry.documents, document.IsWithinLimits)
    (hnew : Document.IsWithinLimits { name, content }) :
    ∀ document ∈ (entry.put name content).documents, document.IsWithinLimits := by
  intro document hmem
  obtain hold | hlast := List.mem_append.mp hmem
  · exact hentry document (List.mem_of_mem_filter hold)
  · obtain rfl := List.mem_singleton.mp hlast
    exact hnew

namespace Directory.IsWithinLimits

variable {d d' : Directory} {id : UInt64} {name content : String}

theorem openSession (h : d.IsWithinLimits) : d.openSession.2.IsWithinLimits := by
  intro entry hentry
  obtain hold | hnew := List.mem_append.mp hentry
  · exact h entry (List.mem_of_mem_filter hold)
  · obtain rfl := List.mem_singleton.mp hnew
    exact fun _ hmem => nomatch hmem

theorem close (h : d.IsWithinLimits) (hclose : d.close id = .ok d') : d'.IsWithinLimits := by
  obtain ⟨-, rfl⟩ := Directory.close_eq_ok_iff.mp hclose
  exact fun entry hentry => h entry (List.mem_of_mem_filter hentry)

theorem put (h : d.IsWithinLimits) (hnew : Document.IsWithinLimits { name, content })
    (hput : d.put id name content = .ok d') : d'.IsWithinLimits := by
  obtain ⟨-, rfl⟩ := Directory.put_eq_ok_iff.mp hput
  intro entry hentry
  obtain ⟨old, hold, rfl⟩ := List.mem_map.mp hentry
  split
  · exact Entry.isWithinLimits_of_mem_put (h old hold) hnew
  · exact h old hold

/-- What can be read of such a directory is within the limits. -/
theorem get (h : d.IsWithinLimits) (hget : d.get id name = .ok content) :
    Document.IsWithinLimits { name, content } := by
  unfold Directory.get at hget
  split at hget
  · cases hget
  · rename_i entry hfound
    split at hget
    · rename_i text htext
      cases hget
      obtain ⟨document, hdocument, rfl⟩ := Option.map_eq_some_iff.mp htext
      have hname := List.find?_some hdocument
      obtain rfl : document.name = name := of_decide_eq_true hname
      exact h entry (List.mem_of_find?_eq_some hfound) document
        (List.mem_of_find?_eq_some hdocument)
    · cases hget

/-- **A request within the limits keeps the directory within the limits.** -/
theorem handle (h : d.IsWithinLimits) (c : Connection) {request : Request}
    (hrequest : request.IsWithinLimits) : (c.handle d request).2.2.IsWithinLimits := by
  let hub : Hub := { directory := d, connections := fun _ => c }
  have hhub : hub.directory.IsWithinLimits := h
  have hhappens := hub.happens_handle 0 request
  show (hub.handle 0 request).2.directory.IsWithinLimits
  generalize (hub.handle 0 request).1.response = response at hhappens
  generalize (hub.handle 0 request).2 = after at hhappens
  cases hhappens with
  | opened => exact hhub.openSession
  | closed hclose => exact hhub.close hclose
  | kept _ hput => exact hhub.put ⟨hrequest.1, hrequest.2⟩ hput
  | resumed => exact hhub
  | read => exact hhub
  | rejected => exact hhub
  | refused => exact hhub

end Directory.IsWithinLimits

/-! ## Everything that is served -/

namespace Scan

variable {α : Type} {scan : Scan α} {Q : α → Prop}

/-- What is left at the end of the stream is nothing else than what was left before. -/
theorem Yields.atEnd (h : scan.Yields Q) : scan.atEnd.Yields Q := by
  intro buffer a rest e
  unfold Scan.atEnd at e
  split at e
  · split at e <;> cases e
  · exact h e

/-- **Whatever is taken from a buffer** has the property. -/
theorem Yields.drain (h : scan.Yields Q) (hc : scan.Consumes) (buffer : Bytes) :
    ∀ a ∈ (scan.drain hc buffer).items, Q a := by
  induction buffer using hc.induction with
  | more buffer hs =>
    rw [drain_of_more hs]
    exact fun _ hmem => nomatch hmem
  | fail buffer error hs =>
    rw [drain_of_fail hs]
    exact fun _ hmem => nomatch hmem
  | done buffer a rest hs ih =>
    rw [drain_of_done hs]
    exact List.forall_mem_cons.mpr ⟨h hs, ih⟩

end Scan

namespace Serving

variable {d : Directory}

theorem directory_settle (answered : Bytes × Serving × Directory) (error : Option ProtocolError) :
    (settle answered error).2.2 = answered.2.2 := by
  unfold settle
  split
  · rfl
  · split
    · rfl
    · split <;> rfl

theorem isWithinLimits_answerAll (h : d.IsWithinLimits) (s : Serving) {requests : List Request}
    (hrequests : ∀ request ∈ requests, request.IsWithinLimits) :
    (s.answerAll d requests).2.2.IsWithinLimits := by
  induction requests generalizing s d with
  | nil => exact h
  | cons request rest ih =>
    obtain ⟨hfirst, hrest⟩ := List.forall_mem_cons.mp hrequests
    rw [answerAll]
    split
    · exact h
    · exact ih (h.handle s.connection hfirst) _ hrest

theorem isWithinLimits_answer (h : d.IsWithinLimits) (s : Serving) {batch : Batch Request}
    (hitems : ∀ request ∈ batch.items, request.IsWithinLimits) :
    (s.answer d batch).2.2.IsWithinLimits := by
  rw [answer_eq, directory_settle]
  exact isWithinLimits_answerAll h _ hitems

/-- **A piece of a stream**, whatever is in it. -/
theorem isWithinLimits_receive (h : d.IsWithinLimits) (s : Serving) (piece : Bytes) :
    (s.receive d piece).2.2.IsWithinLimits := by
  unfold receive
  split
  · exact h
  · exact isWithinLimits_answer h s (Request.yields_scan.drain _ _)

/-- The end of a stream. -/
theorem isWithinLimits_finish (h : d.IsWithinLimits) (s : Serving) (ending : Ending) :
    (s.finish d ending).2.2.IsWithinLimits := by
  unfold finish
  split
  · exact h
  · cases ending with
    | eof => exact isWithinLimits_answer h s (Request.yields_scan.atEnd.drain _ _)
    | failure => exact h
    | cancelled => exact h

end Serving

/-! ## Many streams -/

/-- What can happen on a connection. -/
inductive Streams.Event where
  /-- These bytes arrive. -/
  | receive (piece : Bytes)
  /-- The stream comes to its end. -/
  | finish (ending : Ending)

/-- **A directory and the streams that are served on it**, each under a number. -/
structure Streams where
  directory : Directory := {}
  servings : Nat → Serving

namespace Streams

/-- An empty directory, and connections whose peers take so many bytes. -/
def start (limits : Nat → Option Nat) : Streams where
  servings number := { allowance := limits number }

/-- What happens on the connection with this number. -/
def step (s : Streams) : Nat × Event → Streams
  | (number, event) =>
    let (_, serving, directory) := match event with
      | .receive piece => (s.servings number).receive s.directory piece
      | .finish ending => (s.servings number).finish s.directory ending
    { directory
      servings := fun other => if other = number then serving else s.servings other }

/-- One thing after another. -/
def run : Streams → List (Nat × Event) → Streams := List.foldl step

theorem isWithinLimits_step {s : Streams} (h : s.directory.IsWithinLimits)
    (event : Nat × Event) : (s.step event).directory.IsWithinLimits := by
  obtain ⟨number, event⟩ := event
  cases event with
  | receive piece => exact Serving.isWithinLimits_receive h (s.servings number) piece
  | finish ending => exact Serving.isWithinLimits_finish h (s.servings number) ending

theorem isWithinLimits_run {s : Streams} (h : s.directory.IsWithinLimits)
    (events : List (Nat × Event)) : (s.run events).directory.IsWithinLimits := by
  induction events generalizing s with
  | nil => exact h
  | cons event events ih => exact ih (isWithinLimits_step h event)

/-- **Everything that is kept is within the limits, and can be got back**, whatever has
arrived on however many connections. If a document is got, it is the one that is kept
under the name in the session that is held, and a client that expects a document reads
its content as it is, with a space for each carriage return in the name, and leaves what
follows it. -/
theorem kept_within_limits (limits : Nat → Option Nat) (events : List (Nat × Event)) :
    let s := (start limits).run events
    (∀ entry ∈ s.directory.entries, ∀ document ∈ entry.documents,
        '\n' ∉ document.name.toList ∧ document.name.utf8ByteSize ≤ maxLine
          ∧ document.content.utf8ByteSize ≤ maxContent)
      ∧ ∀ (number : Nat) (name returned content : String),
        ((s.servings number).connection.handle s.directory (.get name)).1.response
            = .document returned content →
          (∃ id, (s.servings number).connection.held = some id
              ∧ s.directory.get id name = .ok content)
            ∧ ∀ (p : Pipeline) (isEnded : Bool) (following : Bytes),
              p.pending.head? = some .document →
              p.receive isEnded ((Response.document returned content).encode ++ following)
                = (.done (.document (singleLine name) content) following,
                  { pending := p.pending.tail }) := by
  intro s
  have hlimits : s.directory.IsWithinLimits :=
    isWithinLimits_run (s := start limits) (fun _ hmem => nomatch hmem) events
  refine ⟨fun entry hentry document hmem => ?_, fun number name returned content hresponse => ?_⟩
  · obtain ⟨hname, hcontent⟩ := hlimits entry hentry document hmem
    exact ⟨hname.newline_notMem, hname.fits, hcontent⟩
  · obtain ⟨hnow, hhappens⟩ := (s.servings number).connection.happens_handle s.directory (.get name)
    rw [hresponse] at hhappens
    cases hhappens with
    | @read id _ _ hheld hget =>
      obtain ⟨hname, hcontent⟩ := hlimits.get hget
      refine ⟨⟨id, hheld, hget⟩, fun p isEnded following hexpected => ?_⟩
      have hmeant : (Response.document name content).MeantBy p.expected := by
        rw [Response.MeantBy, Pipeline.expected, hexpected]
        rfl
      have hfits : (Response.document name content).fits = true :=
        Bool.and_eq_true_iff.mpr ⟨decide_eq_true hname.fits, decide_eq_true hcontent⟩
      exact Pipeline.receive_of_done (Response.scan_encode_of_fits hmeant hfits following) isEnded

/-- The name of a document with a carriage return in it, got by a connection that has
taken the session up while another one holds it. -/
theorem kept_within_limits_return :
    let s := (start fun _ => none).run
      [(0, .receive (utf8 "open\npost\na\rb\n1\nx")), (1, .receive (utf8 "resume\n1\n"))]
    ((s.servings 1).connection.handle s.directory (.get "a\rb")).1.response
        = .document "a\rb" "x"
      ∧ ({ pending := [.document] } : Pipeline).receive false
          ((Response.document "a\rb" "x").encode ++ [])
        = (.done (.document (singleLine "a\rb") "x") [], { pending := [] }) := by
  intro s
  have hresponse : ((s.servings 1).connection.handle s.directory (.get "a\rb")).1.response
      = .document "a\rb" "x" := by
    decide +kernel
  exact ⟨hresponse, ((kept_within_limits _ _).2 1 _ _ _ hresponse).2
    { pending := [.document] } false [] rfl⟩

end Streams

end Moorings.Session
