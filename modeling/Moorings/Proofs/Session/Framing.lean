import Moorings.Proofs.Session.Stability

/-!
# Where requests end

Most of a request is lines, and a line feed in it would end it early. The
content of a document is not: it may hold line feeds, and whole requests. It
is the length before it that says where it ends, so once the front of a post
has been read, what follows is content for as many bytes as were announced
(`PostHead.scan_before`), whatever these bytes may look like.

The other end is that of reading altogether. After something that is no
request, or not legible, nothing is read any more; `EndsReading` says of a
stream that it holds such a thing.
-/

namespace Moorings.Session

open Text (utf8 ofUtf8? ofUtf8Lossy)

/-- The bytes before the line feed of a line that is not too long. -/
structure Scan.IsLine (front : Bytes) : Prop where
  isOne : lineFeed ∉ front
  fits : (withoutReturn front).length ≤ maxLine

theorem Scan.line_of_isLine {front : Bytes} (h : IsLine front) (rest : Bytes) :
    line (front ++ lineFeed :: rest) = .done (withoutReturn front) rest := by
  rw [line_of_finished h.isOne, if_neg (Nat.not_lt.mpr h.fits)]

/-! ## Content -/

/-- **The front of a post**: its three lines, and the length that the third
one announces. -/
structure PostHead where
  verb : Bytes
  name : Bytes
  length : Bytes
  count : Nat
  isLine_verb : Scan.IsLine verb
  isLine_name : Scan.IsLine name
  isLine_length : Scan.IsLine length
  verb_eq : Scan.withoutReturn verb = utf8 Verb.post.word
  length_eq : readLength? (Scan.withoutReturn length) = some count
  count_le : count ≤ maxContent

namespace PostHead

variable (head : PostHead)

/-- The three lines before some bytes. -/
def before (bytes : Bytes) : Bytes :=
  head.verb ++ lineFeed :: (head.name ++ lineFeed :: (head.length ++ lineFeed :: bytes))

/-- What the post asks for with this content: if it is text, to be kept, and
otherwise nothing that can be done. -/
def request (content : Bytes) : Request :=
  match ofUtf8? (Scan.withoutReturn head.name), ofUtf8? content with
  | some name, some content => .post name content
  | _, _ => .invalid s!"post {ofUtf8Lossy (Scan.withoutReturn head.name)}"

/-- **Content is never read as anything else**: after the front of a post come
as many bytes of content as it announces, and what is after them is left. -/
theorem scan_before (bytes : Bytes) :
    Request.scan (head.before bytes)
      = if bytes.length < head.count then .more
        else .done (head.request (bytes.take head.count)) (bytes.drop head.count) := by
  have hverb : Verb.ofLine? (Scan.withoutReturn head.verb) = some .post := by
    rw [head.verb_eq, Verb.ofLine?_word]
  have hcheck : checkContent head.count = .ok () :=
    if_neg (Nat.not_lt.mpr head.count_le)
  -- each line of the front is taken by one scan of a line, and is what the next scan asks for
  unfold before Request.scan
  rw [Scan.bind_of_done (Scan.line_of_isLine head.isLine_verb _), hverb]
  show Request.scanPost _ = _
  unfold Request.scanPost
  rw [Scan.bind_of_done (Scan.line_of_isLine head.isLine_name _),
    Scan.bind_of_done (Scan.line_of_isLine head.isLine_length _), head.length_eq]
  dsimp only
  rw [hcheck]
  dsimp only
  rw [Scan.bind_eq, Scan.bytes]
  by_cases hshort : bytes.length < head.count
  · rw [if_pos hshort, if_pos hshort]
  · rw [if_neg hshort, if_neg hshort]
    dsimp only
    unfold request
    cases ofUtf8? (Scan.withoutReturn head.name) with
    | none => rfl
    | some name => cases ofUtf8? (bytes.take head.count) <;> rfl

end PostHead

/-! ## The end of reading -/

/-- **A stream that ends the reading**: it holds something that is no request,
or not legible. -/
def EndsReading (stream : Bytes) : Prop :=
  (∃ line, Request.invalid line ∈ (Request.drain stream).items)
    ∨ (Request.drain stream).error ≠ none

/-- A stream that ends the reading does not do so by being too short. -/
theorem EndsReading.ne_more {stream : Bytes} (h : EndsReading stream) :
    Request.scan stream ≠ .more := by
  intro hs
  rw [EndsReading, Request.drain, Scan.drain_of_more hs] at h
  obtain ⟨line, hline⟩ | herror := h
  · exact List.not_mem_nil hline
  · exact herror rfl

/-- If it is not the first request that ends the reading, then the rest of the
stream does. -/
theorem EndsReading.of_done {stream rest : Bytes} {request : Request} (h : EndsReading stream)
    (hs : Request.scan stream = .done request rest) (hvalid : ∀ line, request ≠ .invalid line) :
    EndsReading rest := by
  rw [EndsReading, Request.drain, Scan.drain_of_done hs] at h
  obtain ⟨line, hline⟩ | herror := h
  · obtain hfirst | hline := List.mem_cons.mp hline
    · exact absurd hfirst.symm (hvalid line)
    · exact .inl ⟨line, hline⟩
  · exact .inr herror

end Moorings.Session
