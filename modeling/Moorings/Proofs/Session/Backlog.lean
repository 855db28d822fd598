import Moorings.Session.Pipeline
import Moorings.Proofs.Session.Limits
import Moorings.Proofs.Session.WholeStream
import Moorings.Proofs.Text.Numerals

/-!
# How much may wait to be read

What has arrived and is not a whole request waits in a buffer, and a peer may send
whatever it likes. `longest_backlog` says how long a buffer can be that is not read:
longer than the longest request, or response, it is not. Whatever its bytes are,
something is read of a longer one, or it is not legible.

`Scan.Waits` says of a scan that it asks for more only of a buffer of so many bytes at
most. For a line this comes from two tests. One is for a line that has its end, and lets
it take two bytes more than it has itself; the other is for a line that has not, and lets
it have one byte more, which may be the carriage return before its end. After that it is
a matter of adding up (`Scan.waits_line_bind`). The longest of all are a post and a
document, each with a word, two lines and a content.

The bounds are exact: there are buffers of just these lengths that are not read, with a
length that is written with thousands of zeros (`Request.exists_longest` and
`Response.exists_longest`). A server keeps no more than that after every piece of a
stream, as long as it goes on reading (`Serving.length_buffer_le`).
-/

namespace Moorings.Session

open Text (utf8 ofUtf8?)

/-! ## Scans that ask for more -/

namespace Scan

variable {α β : Type} {n : ℕ}

/-- **A scan that asks for more** only of a buffer of at most so many bytes. -/
def Waits (scan : Scan α) (n : ℕ) : Prop :=
  ∀ ⦃buffer : Bytes⦄, scan buffer = .more → buffer.length ≤ n

theorem Waits.mono {scan : Scan α} {m : ℕ} (h : scan.Waits m) (hle : m ≤ n) : scan.Waits n :=
  fun _ e => Nat.le_trans (h e) hle

/-- Of a longer buffer something is read, or it is not legible. -/
theorem Waits.done_or_fail {scan : Scan α} (h : scan.Waits n) {buffer : Bytes}
    (hlong : n < buffer.length) :
    (∃ a rest, scan buffer = .done a rest) ∨ ∃ error, scan buffer = .fail error := by
  cases hs : scan buffer with
  | more => exact absurd (h hs) (Nat.not_le.mpr hlong)
  | fail error => exact .inr ⟨error, rfl⟩
  | done a rest => exact .inl ⟨a, rest, rfl⟩

/-- **A scan that never asks for more.** -/
def Settles (scan : Scan α) : Prop := ∀ buffer, scan buffer ≠ .more

theorem Settles.waits {scan : Scan α} (h : scan.Settles) (n : ℕ) : scan.Waits n :=
  fun buffer e => absurd e (h buffer)

theorem settles_pure (a : α) : (pure a : Scan α).Settles := fun _ e => nomatch e

theorem settles_fail (error : ProtocolError) : (fail error : Scan α).Settles := fun _ e => nomatch e

/-- Of a content only the last byte has to be missing. -/
theorem waits_bytes (k : ℕ) : (bytes k).Waits (k - 1) := by
  intro buffer e
  unfold bytes at e
  split at e
  · rename_i hshort
    exact Nat.le_sub_one_of_lt hshort
  · cases e

/-- An unfinished line may have its carriage return. -/
theorem waits_line : line.Waits (maxLine + 1) := by
  intro buffer e
  by_cases hmem : lineFeed ∈ buffer
  · obtain ⟨front, rest, rfl, hfront⟩ := List.eq_append_cons_of_mem hmem
    rw [line_of_finished hfront] at e
    split at e <;> cases e
  · rw [line_of_unfinished hmem] at e
    split at e
    · cases e
    · rename_i hlong
      exact Nat.not_lt.mp hlong

/-- **A line takes two bytes more than it has**, at most: its carriage return and its
line feed. -/
theorem length_le_of_line {buffer text rest : Bytes} (h : line buffer = .done text rest) :
    buffer.length ≤ text.length + 2 + rest.length := by
  by_cases hmem : lineFeed ∈ buffer
  · obtain ⟨front, rest', rfl, hfront⟩ := List.eq_append_cons_of_mem hmem
    rw [line_of_finished hfront] at h
    split at h
    · cases h
    · cases h
      have hreturn := length_le_withoutReturn front
      rw [List.length_append, List.length_cons]
      omega
  · rw [line_of_unfinished hmem] at h
    split at h <;> cases h

/-- A scan after which nothing is asked for. -/
theorem Waits.bind_settles {scan : Scan α} {next : α → Scan β} (h : scan.Waits n)
    (hnext : ∀ a, (next a).Settles) : (scan >>= next).Waits n := by
  intro buffer e
  cases hs : scan buffer with
  | more => exact h hs
  | fail error => rw [bind_of_fail hs] at e; cases e
  | done a rest =>
    rw [bind_of_done hs] at e
    exact absurd e (hnext a rest)

/-- **A line and what follows it**: if it is not the line that is asked for, the bytes of
the line are added to what the next scan asks for. -/
theorem waits_line_bind {next : Bytes → Scan β} (hline : maxLine < n)
    (hnext : ∀ text, text.length ≤ maxLine → ∃ k, (next text).Waits k ∧ text.length + 2 + k ≤ n) :
    (line >>= next).Waits n := by
  intro buffer e
  cases hs : line buffer with
  | more => exact Nat.le_trans (waits_line hs) hline
  | fail error => rw [bind_of_fail hs] at e; cases e
  | done text rest =>
    rw [bind_of_done hs] at e
    obtain ⟨k, hwaits, hle⟩ := hnext text (yields_line hs).2
    have htaken := length_le_of_line hs
    have hrest := hwaits e
    omega

/-- Two lines, whatever they hold, and what follows them. -/
theorem waits_lines_bind {next : Bytes → Bytes → Scan β} {k : ℕ}
    (hnext : ∀ first second, (next first second).Waits k) :
    (line >>= fun first => line >>= next first).Waits (k + 2 * (maxLine + 2)) := by
  refine waits_line_bind (by omega) fun first hfirst => ⟨k + (maxLine + 2), ?_, by omega⟩
  exact waits_line_bind (by omega) fun second hsecond => ⟨k, hnext first second, by omega⟩

end Scan

/-! ## Requests and responses -/

/-- A verb that is read is there as its word. -/
theorem Verb.eq_of_ofLine? {line : Bytes} {verb : Verb} (h : ofLine? line = some verb) :
    line = utf8 verb.word :=
  (of_decide_eq_true (List.find?_some (p := fun verb : Verb => utf8 verb.word = line) h)).symm

/-- And so is a verdict. -/
theorem Verdict.eq_of_ofLine? {line : Bytes} {verdict : Verdict}
    (h : ofLine? line = some verdict) : line = utf8 verdict.word :=
  (of_decide_eq_true
    (List.find?_some (p := fun verdict : Verdict => utf8 verdict.word = line) h)).symm

theorem maxContent_pos : 0 < maxContent := by decide

namespace Request

theorem waits_scanId (verb : Verb) (request : UInt64 → Request) :
    (scanId verb request).Waits (maxLine + 1) := by
  refine Scan.waits_line.bind_settles fun line => ?_
  split <;> exact Scan.settles_pure _

theorem waits_scanGet : scanGet.Waits (maxLine + 1) := by
  refine Scan.waits_line.bind_settles fun line => ?_
  split <;> exact Scan.settles_pure _

/-- Two lines, and all but one byte of a content. -/
theorem waits_scanPost : scanPost.Waits (maxContent - 1 + 2 * (maxLine + 2)) := by
  refine Scan.waits_lines_bind fun name lengthLine => ?_
  split
  · exact (Scan.settles_pure _).waits _
  · rename_i length _
    split
    · exact (Scan.settles_fail _).waits _
    · rename_i hcheck
      have hle := checkContent_eq_ok_iff.mp hcheck
      refine ((Scan.waits_bytes length).mono (Nat.sub_le_sub_right hle 1)).bind_settles
        fun content => ?_
      split <;> exact Scan.settles_pure _

/-- **No request is longer than a post.** -/
theorem waits_scan : scan.Waits (maxContent + 2 * maxLine + 9) := by
  refine Scan.waits_line_bind (by omega) fun line hline => ?_
  split
  · rename_i verb hverb
    obtain rfl := Verb.eq_of_ofLine? hverb
    cases verb with
    | openSession => exact ⟨0, (Scan.settles_pure _).waits 0, by omega⟩
    | resume => exact ⟨_, waits_scanId _ _, by omega⟩
    | close => exact ⟨_, waits_scanId _ _, by omega⟩
    | get => exact ⟨_, waits_scanGet, by omega⟩
    | post =>
      -- with its end the word takes six bytes, and a content always lacks one
      have hword : (utf8 Verb.post.word).length = 4 := rfl
      have hpos := maxContent_pos
      exact ⟨_, waits_scanPost, by omega⟩
  · exact ⟨0, (Scan.settles_pure _).waits 0, by omega⟩

end Request

namespace Response

theorem waits_scanId (response : UInt64 → Response) : (scanId response).Waits (maxLine + 1) := by
  refine Scan.waits_line.bind_settles fun line => ?_
  split
  · exact Scan.settles_pure _
  · exact Scan.settles_fail _

theorem waits_scanText (response : String → Response) :
    (scanText response).Waits (maxLine + 1) :=
  Scan.waits_line.bind_settles fun _ => Scan.settles_pure _

/-- Two lines, and all but one byte of a content. -/
theorem waits_scanDocument : scanDocument.Waits (maxContent - 1 + 2 * (maxLine + 2)) := by
  refine Scan.waits_lines_bind fun name lengthLine => ?_
  split
  · exact (Scan.settles_fail _).waits _
  · rename_i length _
    split
    · exact (Scan.settles_fail _).waits _
    · rename_i hcheck
      have hle := Request.checkContent_eq_ok_iff.mp hcheck
      refine ((Scan.waits_bytes length).mono (Nat.sub_le_sub_right hle 1)).bind_settles
        fun content => ?_
      split
      · exact Scan.settles_pure _
      · exact Scan.settles_fail _

/-- **No response is longer than a document.** -/
theorem waits_scan (expect : Expect) : (scan expect).Waits (maxContent + 2 * maxLine + 12) := by
  refine Scan.waits_line_bind (by omega) fun line hline => ?_
  split
  · rename_i verdict hverdict
    obtain rfl := Verdict.eq_of_ofLine? hverdict
    cases verdict with
    | accepted => exact ⟨_, waits_scanId _, by omega⟩
    | closed => exact ⟨_, waits_scanId _, by omega⟩
    | rejected => exact ⟨_, waits_scanText _, by omega⟩
    | error => exact ⟨_, waits_scanText _, by omega⟩
    | success =>
      have hword : (utf8 Verdict.success.word).length = 7 := rfl
      have hpos := maxContent_pos
      cases expect with
      | document => exact ⟨_, waits_scanDocument, by omega⟩
      | plain => exact ⟨0, (Scan.settles_pure _).waits 0, by omega⟩
  · exact ⟨0, (Scan.settles_fail _).waits 0, by omega⟩

end Response

/-! ## The longest that waits -/

/-- A line that ends in a carriage return, before the line feed. -/
def returned (text : String) : Bytes := utf8 text ++ [carriageReturn]

theorem withoutReturn_returned (text : String) :
    Scan.withoutReturn (returned text) = utf8 text := by
  unfold Scan.withoutReturn returned
  rw [List.getLast?_concat, if_pos rfl, List.dropLast_concat]

theorem length_returned (text : String) : (returned text).length = text.utf8ByteSize + 1 := by
  rw [returned, List.length_append, Text.length_utf8, List.length_singleton]

theorem isLine_returned {text : String} (h : IsOneLine text) (hle : text.utf8ByteSize ≤ maxLine) :
    Scan.IsLine (returned text) where
  isOne := by
    intro hmem
    obtain hmem | hmem := List.mem_append.mp hmem
    · exact lineFeed_notMem_utf8 h.newline_notMem hmem
    · exact absurd (List.mem_singleton.mp hmem) (by decide)
  fits := by
    rw [withoutReturn_returned, Text.length_utf8]
    exact hle

/-- The length of the longest content, after as many zeros as there is room for on its
line. -/
def longestNumber : String :=
  String.ofList (List.replicate (maxLine - 8) '0') ++ maxContent.repr

theorem utf8ByteSize_longestNumber : longestNumber.utf8ByteSize = maxLine := by
  have hdigits : maxContent.repr.utf8ByteSize = 8 := by decide
  have hzero : ('0' : Char).utf8Size = 1 := by decide
  rw [longestNumber, String.utf8ByteSize_append, Text.utf8ByteSize_ofList_replicate, hdigits,
    hzero]
  decide

theorem isOneLine_longestNumber : IsOneLine longestNumber :=
  .append (.replicate (by decide) (by decide) _) (.repr maxContent)

theorem readLength?_longestNumber : readLength? (utf8 longestNumber) = some maxContent := by
  have hle : maxContent ≤ UInt64.size - 1 := by decide
  rw [readLength?, Text.ofUtf8?_utf8, longestNumber, Option.bind_some,
    Text.Decimal.read?_zeros (maxLine - 8) hle]

theorem isLine_longestNumber : Scan.IsLine (returned longestNumber) :=
  isLine_returned isOneLine_longestNumber utf8ByteSize_longestNumber.le

/-- What may follow a word: a name and a length, each on a line as long as there is, and
some bytes of a content. -/
def longestFields (bytes : Bytes) : Bytes :=
  returned longestNumber ++ lineFeed :: (returned longestNumber ++ lineFeed :: bytes)

theorem length_longestFields (bytes : Bytes) :
    (longestFields bytes).length = bytes.length + 2 * (maxLine + 2) := by
  have hline : (returned longestNumber).length = maxLine + 1 := by
    rw [length_returned, utf8ByteSize_longestNumber]
  rw [longestFields, List.length_append, List.length_cons, List.length_append, List.length_cons,
    hline]
  omega

/-- The front of the longest post. -/
def longestHead : PostHead where
  verb := returned Verb.post.word
  name := returned longestNumber
  length := returned longestNumber
  count := maxContent
  isLine_verb := isLine_returned (by decide) (by decide)
  isLine_name := isLine_longestNumber
  isLine_length := isLine_longestNumber
  verb_eq := withoutReturn_returned _
  length_eq := by rw [withoutReturn_returned, readLength?_longestNumber]
  count_le := Nat.le_refl maxContent

/-- A content that is not complete is asked for. -/
theorem Response.scanDocument_longestFields {bytes : Bytes} (h : bytes.length < maxContent) :
    scanDocument (longestFields bytes) = .more := by
  unfold scanDocument longestFields
  rw [Scan.bind_of_done (Scan.line_of_isLine isLine_longestNumber _),
    Scan.bind_of_done (Scan.line_of_isLine isLine_longestNumber _), withoutReturn_returned,
    readLength?_longestNumber]
  dsimp only
  rw [Request.checkContent_eq_ok_iff.mpr (Nat.le_refl maxContent)]
  dsimp only
  rw [Scan.bind_eq, Scan.bytes, if_pos h]

/-- A content of which nothing but the last byte is missing. -/
theorem exists_bytes_of_maxContent : ∃ bytes : Bytes, bytes.length + 1 = maxContent := by
  refine ⟨List.replicate (maxContent - 1) 0, ?_⟩
  rw [List.length_replicate, Nat.sub_add_cancel maxContent_pos]

/-- **So much of a post may wait**, if all of it is as long as it may be. -/
theorem Request.exists_longest :
    ∃ buffer : Bytes, scan buffer = .more ∧ buffer.length = maxContent + 2 * maxLine + 9 := by
  obtain ⟨bytes, hbytes⟩ := exists_bytes_of_maxContent
  have hshort : bytes.length < maxContent := Nat.lt_of_succ_le hbytes.le
  have hword : Verb.post.word.utf8ByteSize = 4 := rfl
  refine ⟨longestHead.before bytes, (longestHead.scan_before bytes).trans (if_pos hshort), ?_⟩
  show (returned Verb.post.word ++ lineFeed :: longestFields bytes).length = _
  rw [List.length_append, List.length_cons, length_returned, hword, length_longestFields]
  omega

/-- **And so much of a document** that is expected. -/
theorem Response.exists_longest :
    ∃ buffer : Bytes, scan .document buffer = .more
      ∧ buffer.length = maxContent + 2 * maxLine + 12 := by
  obtain ⟨bytes, hbytes⟩ := exists_bytes_of_maxContent
  have hshort : bytes.length < maxContent := Nat.lt_of_succ_le hbytes.le
  have hword : Verdict.success.word.utf8ByteSize = 7 := rfl
  have hline : Scan.IsLine (returned Verdict.success.word) :=
    isLine_returned (by decide) (by decide)
  refine ⟨returned Verdict.success.word ++ lineFeed :: longestFields bytes, ?_, ?_⟩
  · unfold scan
    rw [Scan.bind_of_done (Scan.line_of_isLine hline _), withoutReturn_returned,
      Verdict.ofLine?_word]
    exact scanDocument_longestFields hshort
  · rw [List.length_append, List.length_cons, length_returned, hword, length_longestFields]
    omega

/-! ## The bounds -/

/-- Before the end of the stream, a client reads a response and nothing else. -/
theorem Pipeline.reading_receive (p : Pipeline) (buffer : Bytes) :
    (p.receive false buffer).1 = Response.scan p.expected buffer := by
  have hscan : p.scan false buffer = Response.scan p.expected buffer := rfl
  unfold receive
  rw [hscan]
  cases Response.scan p.expected buffer <;> rfl

/-- **No buffer waits to be read that is longer than the longest thing that may arrive**,
whatever its bytes are, at a server and at a client, whatever the client expects. Of a
longer one something is read, or it is not legible. There are buffers of just these
lengths that wait. -/
theorem longest_backlog :
    (∀ buffer : Bytes,
      (Request.scan buffer = .more → buffer.length ≤ maxContent + 2 * maxLine + 9)
        ∧ (maxContent + 2 * maxLine + 9 < buffer.length →
          (∃ request rest, Request.scan buffer = .done request rest)
            ∨ ∃ error, Request.scan buffer = .fail error))
      ∧ (∀ (p : Pipeline) (buffer : Bytes),
        ((p.receive false buffer).1 = .more → buffer.length ≤ maxContent + 2 * maxLine + 12)
          ∧ (maxContent + 2 * maxLine + 12 < buffer.length →
            (∃ response rest, (p.receive false buffer).1 = .done response rest)
              ∨ ∃ error, (p.receive false buffer).1 = .fail error))
      ∧ (∃ buffer : Bytes, Request.scan buffer = .more
        ∧ buffer.length = maxContent + 2 * maxLine + 9)
      ∧ ∃ (p : Pipeline) (buffer : Bytes), (p.receive false buffer).1 = .more
        ∧ buffer.length = maxContent + 2 * maxLine + 12 := by
  refine ⟨fun buffer => ?_, fun p buffer => ?_, Request.exists_longest, ?_⟩
  · have hwaits := Request.waits_scan
    exact ⟨fun h => hwaits h, hwaits.done_or_fail⟩
  · have hwaits := Response.waits_scan p.expected
    rw [p.reading_receive]
    exact ⟨fun h => hwaits h, hwaits.done_or_fail⟩
  · obtain ⟨buffer, hmore, hlength⟩ := Response.exists_longest
    exact ⟨{ pending := [.document] }, buffer, (Pipeline.reading_receive _ _).trans hmore, hlength⟩

/-! ## What a server keeps -/

/-- What is left when everything has been taken is asked for, unless it is not legible. -/
theorem Scan.left_drain {α : Type} {scan : Scan α} (hc : scan.Consumes) (buffer : Bytes)
    (h : (scan.drain hc buffer).error = none) : scan (scan.drain hc buffer).left = .more := by
  induction buffer using hc.induction with
  | more buffer hs => rwa [drain_of_more hs]
  | fail buffer error hs =>
    rw [drain_of_fail hs] at h
    cases h
  | done buffer a rest hs ih =>
    rw [drain_of_done hs] at h ⊢
    exact ih h

namespace Serving

variable {s : Serving} {d : Directory}

theorem buffer_send (s : Serving) (reply : Reply) : (s.send reply).2.buffer = s.buffer := by
  show (s.write _).2.buffer = s.buffer
  unfold write
  split
  · rfl
  · split <;> rfl

/-- Answering takes nothing from the buffer. -/
theorem buffer_answerAll (s : Serving) (d : Directory) (requests : List Request) :
    (s.answerAll d requests).2.1.buffer = s.buffer := by
  induction requests generalizing s d with
  | nil => rfl
  | cons request rest ih =>
    rw [answerAll]
    split
    · rfl
    · exact (ih _ _).trans (buffer_send _ _)

/-- What is not legible is the last that happens. -/
theorem isOver_settle_of_error (answered : Bytes × Serving × Directory) (error : ProtocolError) :
    (settle answered (some error)).2.1.isOver = true := by
  unfold settle
  split
  · assumption
  · dsimp only
    split
    · rfl
    · exact Bool.or_true _

/-- **What is kept of a piece** is asked for, as long as the serving lasts, however much
the peer takes. -/
theorem scan_buffer_receive (hs : s.isOver = false → Request.scan s.buffer = .more)
    (piece : Bytes) (h : (s.receive d piece).2.1.isOver = false) :
    Request.scan (s.receive d piece).2.1.buffer = .more := by
  unfold receive at h ⊢
  split at h
  · rename_i hover
    rw [if_pos hover]
    exact hs h
  · rename_i hover
    rw [if_neg hover]
    rw [answer_eq] at h ⊢
    cases herror : (Request.drain (s.buffer ++ piece)).error with
    | some error =>
      rw [herror, isOver_settle_of_error] at h
      cases h
    | none =>
      have hsettle : ∀ answered, settle answered none = answered := fun answered => ite_self _
      rw [hsettle, buffer_answerAll]
      exact Scan.left_drain Request.consumes_scan _ herror

/-- **What is kept of all the pieces.** -/
theorem scan_buffer_receiveAll (hs : s.isOver = false → Request.scan s.buffer = .more)
    (pieces : List Bytes) (h : (s.receiveAll d pieces).2.1.isOver = false) :
    Request.scan (s.receiveAll d pieces).2.1.buffer = .more := by
  induction pieces generalizing s d with
  | nil => exact hs h
  | cons piece pieces ih =>
    -- the first piece leaves a serving that waits, which is all that the others ask for
    exact ih (scan_buffer_receive hs piece) h

/-- **A server never keeps more than the longest request**, whatever a client sends, in
whatever pieces, and however little it takes of the answers. -/
theorem length_buffer_le (limit : Option Nat) (d : Directory) (pieces : List Bytes) :
    let s := (({ allowance := limit } : Serving).receiveAll d pieces).2.1
    s.isOver = false → s.buffer.length ≤ maxContent + 2 * maxLine + 9 := by
  intro s h
  exact Request.waits_scan (scan_buffer_receiveAll (fun _ => rfl) pieces h)

end Serving

end Moorings.Session
