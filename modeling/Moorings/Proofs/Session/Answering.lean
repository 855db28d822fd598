import Moorings.Proofs.Session.History
import Moorings.Proofs.Session.Limits

/-!
# An answer that is read by the one who asked

What the server writes is read by the client from the front of a stream, if the
client knows what it has asked for (`Response.MeantBy`). The texts of a response
are made to fit on lines before they are written, with a space for each line
break, so `Response.received` is what arrives. `Response.scan_encode_of_fits` and
`Response.scan_encode_of_not_fits` tell by the limits alone whether it does.

The server's own answers keep to one line in all that they say of themselves:
their reasons and messages have no line breaks, since a name in a message is quoted
(`Connection.isPlain_handle`). What is left is the name of a document, which the
client has chosen and which may have carriage returns in it.
-/

namespace Moorings.Session

open Text (utf8 ofUtf8? quoted)

/-! ## What is said of an answer -/

namespace Response

/-- **What is received of a response**: each of its texts is a line, with a space
for each line break. -/
def received : Response → Response
  | rejected reason => rejected (singleLine reason)
  | document name content => document (singleLine name) content
  | error message => error (singleLine message)
  | response => response

/-- Whether the texts of a response are no longer than a line may be, and its
content no longer than a content may be. -/
def fits : Response → Bool
  | rejected reason => reason.utf8ByteSize ≤ maxLine
  | document name content => name.utf8ByteSize ≤ maxLine && content.utf8ByteSize ≤ maxContent
  | error message => message.utf8ByteSize ≤ maxLine
  | _ => true

/-- The text of a response, which is a line of its own, if it has one. -/
def text? : Response → Option String
  | rejected reason => some reason
  | document name _ => some name
  | error message => some message
  | _ => none

/-- The content of a response, if it is a document. -/
def content? : Response → Option String
  | document _ content => some content
  | _ => none

/-- A response whose text is no longer than a line may be. -/
def TextFits (response : Response) : Prop :=
  ∀ text, response.text? = some text → text.utf8ByteSize ≤ maxLine

/-- A response whose content is no longer than a content may be. -/
def ContentFits (response : Response) : Prop :=
  ∀ content, response.content? = some content → content.utf8ByteSize ≤ maxContent

/-- A response is within the limits if its text and its content are. -/
theorem fits_eq_true_iff {response : Response} :
    response.fits = true ↔ response.TextFits ∧ response.ContentFits := by
  unfold TextFits ContentFits
  cases response <;>
    simp only [fits, text?, content?, Bool.and_eq_true, decide_eq_true_eq, Option.some.injEq,
      forall_eq', reduceCtorEq, IsEmpty.forall_iff, implies_true, and_self, and_true]

/-- Whether the word `success` is meant in the response as it is expected. -/
def MeantBy (expect : Expect) : Response → Prop
  | document _ _ => expect = .document
  | success => expect = .plain
  | _ => True

/-- A response whose reason or message has no line breaks. -/
def IsPlain : Response → Prop
  | rejected reason => IsOneLine reason
  | error message => IsOneLine message
  | _ => True

/-- A response without line breaks in its texts is received as it is. -/
theorem IsPlain.received_eq {response : Response} (h : response.IsPlain)
    (hname : ∀ name content, response = .document name content → IsOneLine name) :
    response.received = response := by
  cases response with
  | rejected reason => exact congrArg rejected h.singleLine_eq
  | document name content =>
    exact congrArg (document · content) (hname name content rfl).singleLine_eq
  | error message => exact congrArg error h.singleLine_eq
  | accepted id => rfl
  | closed id => rfl
  | success => rfl

/-! ## What is read -/

/-- The word that a response begins with says what is to be read after it. -/
theorem scan_word (expect : Expect) (verdict : Verdict) (rest : Bytes) :
    scan expect (lineOf verdict.word ++ rest) = scanAfter expect verdict rest := by
  have hline : Scan.line (lineOf verdict.word ++ rest) = .done (utf8 verdict.word) rest := by
    refine Scan.line_of_isOneLine ?_ ?_ rest
    · cases verdict <;> decide
    · cases verdict <;> decide
  unfold scan
  rw [Scan.bind_of_done hline, Verdict.ofLine?_word]

theorem scanId_numberLine (response : UInt64 → Response) (id : UInt64) (rest : Bytes) :
    scanId response (numberLine id.toNat ++ rest) = .done (response id) rest := by
  unfold scanId
  rw [Scan.bind_of_done (Scan.line_numberLine id.toNat_lt rest), readId?_utf8_repr]
  rfl

section Text

variable {text : String}

theorem line_singleLine (h : text.utf8ByteSize ≤ maxLine) (rest : Bytes) :
    Scan.line (lineOf (singleLine text) ++ rest) = .done (utf8 (singleLine text)) rest :=
  Scan.line_of_isOneLine (isOneLine_singleLine text) (utf8ByteSize_singleLine text ▸ h) rest

theorem line_singleLine_of_lt (h : maxLine < text.utf8ByteSize) (rest : Bytes) :
    Scan.line (lineOf (singleLine text) ++ rest) = .fail (.lineTooLong maxLine) := by
  have hone := isOneLine_singleLine text
  rw [Scan.line_lineOf hone.newline_notMem, hone.received_eq, utf8ByteSize_singleLine, if_pos h]

theorem scanText_lineOf (h : text.utf8ByteSize ≤ maxLine) (response : String → Response)
    (rest : Bytes) :
    scanText response (lineOf (singleLine text) ++ rest)
      = .done (response (singleLine text)) rest := by
  unfold scanText
  rw [Scan.bind_of_done (line_singleLine h rest), Text.ofUtf8Lossy_utf8]
  rfl

theorem scanText_lineOf_of_lt (h : maxLine < text.utf8ByteSize) (response : String → Response)
    (rest : Bytes) :
    scanText response (lineOf (singleLine text) ++ rest) = .fail (.lineTooLong maxLine) :=
  Scan.bind_of_fail (line_singleLine_of_lt h rest)

end Text

section Document

variable {name content : String}

theorem scanDocument_lineOf (hname : name.utf8ByteSize ≤ maxLine)
    (hcontent : content.utf8ByteSize ≤ maxContent) (rest : Bytes) :
    scanDocument (lineOf (singleLine name)
        ++ (numberLine content.utf8ByteSize ++ (utf8 content ++ rest)))
      = .done (.document (singleLine name) content) rest := by
  have hsize : content.utf8ByteSize < UInt64.size := Nat.lt_of_le_of_lt hcontent (by decide)
  unfold scanDocument
  rw [Scan.bind_of_done (line_singleLine hname _),
    Scan.bind_of_done (Scan.line_numberLine hsize _), readLength?_utf8_repr hsize]
  dsimp only
  rw [Request.checkContent_eq_ok_iff.mpr hcontent]
  dsimp only
  rw [Scan.bind_of_done (Scan.bytes_utf8 content rest), Text.ofUtf8?_utf8, Text.ofUtf8Lossy_utf8]
  rfl

/-- A content that is too long is refused, and by its length if that is a number of 64
bits, which is what the length of a content is. -/
theorem scanDocument_lineOf_of_lt (hname : name.utf8ByteSize ≤ maxLine)
    (hcontent : maxContent < content.utf8ByteSize) (rest : Bytes) :
    ∃ error, scanDocument (lineOf (singleLine name)
        ++ (numberLine content.utf8ByteSize ++ rest)) = .fail error
      ∧ (content.utf8ByteSize < UInt64.size →
        error = .tooLarge content.utf8ByteSize maxContent) := by
  have hnumber : IsOneLine content.utf8ByteSize.repr := .repr _
  have hline : Scan.line (numberLine content.utf8ByteSize ++ rest) = _ :=
    Scan.line_lineOf hnumber.newline_notMem rest
  rw [hnumber.received_eq] at hline
  unfold scanDocument
  rw [Scan.bind_of_done (line_singleLine hname _)]
  split at hline
  · rename_i hlong
    refine ⟨_, Scan.bind_of_fail hline, fun hsize => ?_⟩
    have hdigits := utf8ByteSize_repr_le hsize
    exact absurd (Nat.lt_of_lt_of_le hlong hdigits) (by decide)
  · rw [Scan.bind_of_done hline, readLength?_utf8_repr_eq]
    by_cases hsize : content.utf8ByteSize ≤ UInt64.size - 1
    · have hcheck : checkContent content.utf8ByteSize
          = .error (.tooLarge content.utf8ByteSize maxContent) := if_pos hcontent
      rw [if_pos hsize]
      dsimp only
      rw [hcheck]
      exact ⟨_, rfl, fun _ => rfl⟩
    · rw [if_neg hsize]
      exact ⟨_, rfl, fun hlt => absurd (Nat.le_sub_one_of_lt hlt) hsize⟩

end Document

/-- **A response within the limits is read**, by one who knows what it answers,
and whatever follows it in the stream is left. -/
theorem scan_encode_of_fits {response : Response} {expect : Expect}
    (hmeant : response.MeantBy expect) (hfits : response.fits = true) (rest : Bytes) :
    scan expect (response.encode ++ rest) = .done response.received rest := by
  cases response with
  | accepted id =>
    rw [encode, List.append_assoc, scan_word]
    exact scanId_numberLine _ id rest
  | rejected reason =>
    rw [encode, List.append_assoc, scan_word]
    exact scanText_lineOf (of_decide_eq_true hfits) _ rest
  | closed id =>
    rw [encode, List.append_assoc, scan_word]
    exact scanId_numberLine _ id rest
  | document name content =>
    obtain rfl : expect = .document := hmeant
    obtain ⟨hname, hcontent⟩ := Bool.and_eq_true_iff.mp hfits
    rw [encode, List.append_assoc, List.append_assoc, List.append_assoc, scan_word]
    exact scanDocument_lineOf (of_decide_eq_true hname) (of_decide_eq_true hcontent) rest
  | success =>
    obtain rfl : expect = .plain := hmeant
    exact scan_word .plain .success rest
  | error message =>
    rw [encode, List.append_assoc, scan_word]
    exact scanText_lineOf (of_decide_eq_true hfits) _ rest

/-- **A text that is too long is refused** as a line that is, whatever else there may be
in the response. -/
theorem scan_encode_of_not_textFits {response : Response} {expect : Expect}
    (hmeant : response.MeantBy expect) (htext : ¬response.TextFits) (rest : Bytes) :
    scan expect (response.encode ++ rest) = .fail (.lineTooLong maxLine) := by
  obtain ⟨text, htext, hlong⟩ : ∃ text, response.text? = some text
      ∧ maxLine < text.utf8ByteSize := by
    unfold TextFits at htext
    push Not at htext
    exact htext
  cases response with
  | accepted id => cases htext
  | closed id => cases htext
  | success => cases htext
  | rejected reason =>
    cases htext
    rw [encode, List.append_assoc, scan_word]
    exact scanText_lineOf_of_lt hlong _ rest
  | error message =>
    cases htext
    rw [encode, List.append_assoc, scan_word]
    exact scanText_lineOf_of_lt hlong _ rest
  | document name content =>
    cases htext
    obtain rfl : expect = .document := hmeant
    rw [encode, List.append_assoc, List.append_assoc, List.append_assoc, scan_word]
    exact Scan.bind_of_fail (line_singleLine_of_lt hlong _)

/-- **A content that is too long is refused** too, after a text that is not. -/
theorem scan_encode_of_lt {response : Response} {expect : Expect} {content : String}
    (hmeant : response.MeantBy expect) (htext : response.TextFits)
    (hcontent : response.content? = some content) (hlong : maxContent < content.utf8ByteSize)
    (rest : Bytes) :
    ∃ error, scan expect (response.encode ++ rest) = .fail error
      ∧ (content.utf8ByteSize < UInt64.size →
        error = .tooLarge content.utf8ByteSize maxContent) := by
  cases response with
  | document name content =>
    cases hcontent
    obtain rfl : expect = .document := hmeant
    rw [encode, List.append_assoc, List.append_assoc, List.append_assoc, scan_word]
    exact scanDocument_lineOf_of_lt (htext name rfl) hlong _
  | accepted id => cases hcontent
  | rejected reason => cases hcontent
  | closed id => cases hcontent
  | success => cases hcontent
  | error message => cases hcontent

/-- **A response beyond the limits is refused.** -/
theorem scan_encode_of_not_fits {response : Response} {expect : Expect}
    (hmeant : response.MeantBy expect) (hfits : response.fits = false) (rest : Bytes) :
    ∃ error, scan expect (response.encode ++ rest) = .fail error := by
  rw [← Bool.not_eq_true, fits_eq_true_iff, not_and] at hfits
  by_cases htext : response.TextFits
  · obtain ⟨content, hcontent, hlong⟩ : ∃ content, response.content? = some content
        ∧ maxContent < content.utf8ByteSize := by
      have hlong := hfits htext
      unfold ContentFits at hlong
      push Not at hlong
      exact hlong
    obtain ⟨error, hfail, -⟩ := scan_encode_of_lt hmeant htext hcontent hlong rest
    exact ⟨error, hfail⟩
  · exact ⟨_, scan_encode_of_not_textFits hmeant htext rest⟩

end Response

/-! ## The server's own answers -/

/-- A quoted text has no line breaks. -/
theorem isOneLine_quoted (text : String) : IsOneLine (quoted text) := by
  intro k hk
  rw [quoted, String.toList_ofList, List.cons_append, List.mem_cons, List.mem_append,
    List.mem_flatMap, List.mem_singleton] at hk
  obtain rfl | ⟨c, -, hk⟩ | rfl := hk
  · decide
  · exact Text.ne_of_mem_escape hk
  · decide

/-- Nor has the message that shows one. -/
theorem DirectoryError.isOneLine_message (error : DirectoryError) : IsOneLine error.message := by
  cases error with
  | notOpen id =>
    exact ((by decide : IsOneLine "Session ").append (.repr id.toNat)).append
      (by decide : IsOneLine " is not open")
  | noDocument id name =>
    exact (((by decide : IsOneLine "Document ").append (isOneLine_quoted name)).append
      (by decide : IsOneLine " not found in session ")).append (.repr id.toNat)

/-- The message that a session is not open is short. -/
theorem DirectoryError.utf8ByteSize_notOpen_le (id : UInt64) :
    (notOpen id).message.utf8ByteSize ≤ maxLine := by
  have hid := utf8ByteSize_repr_le id.toNat_lt
  show ("Session " ++ id.toNat.repr ++ " is not open").utf8ByteSize ≤ maxLine
  rw [String.utf8ByteSize_append, String.utf8ByteSize_append]
  exact Nat.le_trans (Nat.add_le_add_right (Nat.add_le_add_left hid _) _) (by decide)

namespace Connection

variable {c : Connection} {d : Directory} {request : Request} {message : String}

/-- **What the server says when it refuses a request**: one of a few texts, or the
reason why a session or a document is not to be had. Only a get is told that there
is no document. -/
theorem message_of_error (h : (c.handle d request).1.response = .error message) :
    message ∈ [sessionAlreadyOpen, noSessionOpen, invalidCommand]
      ∨ ∃ error : DirectoryError, message = error.message
        ∧ ∀ id name, error = .noDocument id name →
          request = .get name ∧ c.held = some id ∧ d.get id name = .error error := by
  obtain ⟨held⟩ := c
  cases request with
  | openSession =>
    change (Connection.openSession { held } d).1.response = _ at h
    unfold Connection.openSession at h
    cases held <;> cases h
    exact .inl (by decide)
  | resume id =>
    change (Connection.resume { held } d id).1.response = _ at h
    unfold Connection.resume at h
    cases held with
    | none => dsimp only at h; split at h <;> cases h
    | some id =>
      cases h
      exact .inl (by decide)
  | close id =>
    change (Connection.close { held } d id).1.response = _ at h
    unfold Connection.close at h
    cases hclose : d.close id with
    | ok d' => rw [hclose] at h; cases h
    | error error =>
      rw [hclose] at h
      cases h
      obtain rfl := Directory.eq_notOpen_of_close hclose
      exact .inr ⟨_, rfl, fun _ _ e => by cases e⟩
  | get name =>
    change (Connection.get { held } d name).response = _ at h
    unfold Connection.get at h
    cases held with
    | none =>
      cases h
      exact .inl (by decide)
    | some id =>
      dsimp only at h
      cases hget : d.get id name with
      | ok content => rw [hget] at h; cases h
      | error error =>
        rw [hget] at h
        cases h
        refine .inr ⟨error, rfl, ?_⟩
        rintro id' name' rfl
        obtain e | e := Directory.eq_of_get hget <;> cases e
        exact ⟨rfl, rfl, hget⟩
  | post name content =>
    change (Connection.post { held } d name content).1.response = _ at h
    unfold Connection.post at h
    cases held with
    | none =>
      cases h
      exact .inl (by decide)
    | some id =>
      dsimp only at h
      cases hput : d.put id name content with
      | ok d' => rw [hput] at h; cases h
      | error error =>
        rw [hput] at h
        cases h
        obtain rfl := Directory.eq_notOpen_of_put hput
        exact .inr ⟨_, rfl, fun _ _ e => by cases e⟩
  | invalid line =>
    cases h
    exact .inl (by decide)

/-- What happens at a request of one connection, as if there were no other. -/
theorem happens_handle (c : Connection) (d : Directory) (request : Request) :
    ∃ h' : Hub, Hub.Happens { directory := d, connections := fun _ => c } 0 request
      (c.handle d request).1.response h' :=
  ⟨_, Hub.happens_handle { directory := d, connections := fun _ => c } 0 request⟩

/-- **A response means what its request makes its client expect.** -/
theorem meantBy_handle (c : Connection) (d : Directory) (request : Request) :
    (c.handle d request).1.response.MeantBy request.expect := by
  obtain ⟨h', hh⟩ := c.happens_handle d request
  generalize (c.handle d request).1.response = response at hh
  cases hh with
  | kept => exact rfl
  | read => exact rfl
  | opened => exact trivial
  | resumed => exact trivial
  | closed => exact trivial
  | rejected => exact trivial
  | refused => exact trivial

/-- A document is given only to who has asked for it by its name. -/
theorem eq_get_of_document {name content : String}
    (h : (c.handle d request).1.response = .document name content) : request = .get name := by
  obtain ⟨h', hh⟩ := c.happens_handle d request
  rw [h] at hh
  cases hh
  rfl

/-- There is only one reason to reject a session. -/
theorem eq_unableToResume_of_rejected {reason : String}
    (h : (c.handle d request).1.response = .rejected reason) : reason = unableToResume := by
  obtain ⟨h', hh⟩ := c.happens_handle d request
  rw [h] at hh
  cases hh
  rfl

/-- **What the server says of itself** has no line breaks. -/
theorem isPlain_handle (c : Connection) (d : Directory) (request : Request) :
    (c.handle d request).1.response.IsPlain := by
  cases h : (c.handle d request).1.response with
  | rejected reason =>
    obtain rfl := eq_unableToResume_of_rejected h
    exact (by decide : IsOneLine unableToResume)
  | error message =>
    show IsOneLine message
    obtain hmem | ⟨error, rfl, -⟩ := message_of_error h
    · have hall : ∀ text ∈ [sessionAlreadyOpen, noSessionOpen, invalidCommand],
          IsOneLine text := by decide
      exact hall _ hmem
    · exact error.isOneLine_message
  | accepted id => exact trivial
  | closed id => exact trivial
  | document name content => exact trivial
  | success => exact trivial

/-- **When a response is within the limits**: the content that was asked for has to
be, and so has the message that there is no document of some name. Everything else
is short. -/
theorem fits_handle (hrequest : request.IsWithinLimits)
    (hcontent : ∀ name content, (c.handle d request).1.response = .document name content →
      content.utf8ByteSize ≤ maxContent)
    (hmessage : ∀ id name, request = .get name → c.held = some id →
      d.get id name = .error (.noDocument id name) →
      (DirectoryError.noDocument id name).message.utf8ByteSize ≤ maxLine) :
    (c.handle d request).1.response.fits = true := by
  cases h : (c.handle d request).1.response with
  | rejected reason =>
    obtain rfl := eq_unableToResume_of_rejected h
    decide
  | document name content =>
    obtain rfl := eq_get_of_document h
    have hname : IsName name := hrequest
    exact Bool.and_eq_true_iff.mpr
      ⟨decide_eq_true hname.fits, decide_eq_true (hcontent name content h)⟩
  | error message =>
    refine decide_eq_true ?_
    obtain hmem | ⟨error, rfl, hget⟩ := message_of_error h
    · have hall : ∀ text ∈ [sessionAlreadyOpen, noSessionOpen, invalidCommand],
          text.utf8ByteSize ≤ maxLine := by decide
      exact hall _ hmem
    · cases error with
      | notOpen id => exact DirectoryError.utf8ByteSize_notOpen_le id
      | noDocument id name =>
        obtain ⟨hname, hheld, hnone⟩ := hget id name rfl
        exact hmessage id name hname hheld hnone
  | accepted id => rfl
  | closed id => rfl
  | success => rfl

end Connection

/-! ## Names and contents at their limits -/

/-- A text of letters only. -/
def letters (n : Nat) : String := String.ofList (List.replicate n 'a')

theorem utf8ByteSize_letters (n : Nat) : (letters n).utf8ByteSize = n := by
  have hletter : ('a' : Char).utf8Size = 1 := rfl
  rw [letters, Text.utf8ByteSize_ofList_replicate, hletter, Nat.mul_one]

theorem isOneLine_letters (n : Nat) : IsOneLine (letters n) :=
  .replicate (by decide) (by decide) n

theorem quoted_letters (n : Nat) : quoted (letters n) = "\"" ++ letters n ++ "\"" := by
  have hletter : ∀ c ∈ List.replicate n 'a', Text.escape c = [c] := by
    intro c hc
    rw [List.eq_of_mem_replicate hc]
    decide +kernel
  refine String.toList_injective ?_
  simp only [quoted, letters, String.toList_ofList, String.toList_append,
    List.flatMap_congr hletter, List.flatMap_singleton']
  rfl

/-- The message that there is no document of a name is longer than the name. -/
theorem lt_utf8ByteSize_noDocument (id : UInt64) (n : Nat) :
    n < (DirectoryError.noDocument id (letters n)).message.utf8ByteSize := by
  show n < ("Document " ++ quoted (letters n) ++ " not found in session "
    ++ id.toNat.repr).utf8ByteSize
  have hquote : "\"".utf8ByteSize = 1 := rfl
  rw [quoted_letters]
  simp only [String.utf8ByteSize_append, utf8ByteSize_letters, hquote]
  omega

/-- A name of letters that fits on its line is read. -/
theorem Request.scan_get_letters {n : Nat} (h : n ≤ maxLine) :
    Request.scan (utf8 "get\n" ++ lineOf (letters n)) = .done (.get (letters n)) [] := by
  have hencode : (Request.get (letters n)).encode = .ok (utf8 "get\n" ++ lineOf (letters n)) :=
    Request.encode_get_eq_ok_iff.mpr ⟨(isOneLine_letters n).newline_notMem, rfl⟩
  have hscan := Request.scan_encode (fun _ => Request.noConfusion) hencode []
  have hreceived := (isOneLine_letters n).received_eq
  have hfits : (Request.get (letters n)).fits = true := by
    rw [Request.fits, Request.name?, Option.all_some, hreceived, utf8ByteSize_letters]
    exact decide_eq_true h
  rwa [List.append_nil, if_pos hfits, Request.received, hreceived] at hscan

/-! ## What is received -/

namespace Pipeline

section Receive

variable {p : Pipeline} {response : Response} {buffer rest : Bytes}

/-- A response that is read is received, and the request it answers is not on its
way any more. -/
theorem receive_of_done (h : Response.scan p.expected buffer = .done response rest)
    (isEnded : Bool) :
    p.receive isEnded buffer = (.done response rest, { pending := p.pending.tail }) := by
  have hscan : p.scan isEnded buffer = .done response rest := by
    unfold scan
    split
    · rw [Scan.atEnd, h]
    · exact h
  rw [receive, hscan]

/-- What is not legible answers nothing. -/
theorem receive_of_fail {error : ProtocolError}
    (h : Response.scan p.expected buffer = .fail error) (isEnded : Bool) :
    p.receive isEnded buffer = (.fail error, p) := by
  have hscan : p.scan isEnded buffer = .fail error := by
    unfold scan
    split
    · rw [Scan.atEnd, h]
    · exact h
  rw [receive, hscan]

/-- A response within the limits is received by the one whose request it answers. -/
theorem receive_encode (hmeant : response.MeantBy p.expected) (hfits : response.fits = true)
    (isEnded : Bool) :
    p.receive isEnded response.encode
      = (.done response.received [], { pending := p.pending.tail }) := by
  have hscan := Response.scan_encode_of_fits hmeant hfits []
  rw [List.append_nil] at hscan
  exact receive_of_done hscan isEnded

/-- One beyond the limits is not. -/
theorem receive_encode_of_not_fits (hmeant : response.MeantBy p.expected)
    (hfits : response.fits = false) (isEnded : Bool) :
    ∃ error, p.receive isEnded response.encode = (.fail error, p) := by
  obtain ⟨error, hscan⟩ := Response.scan_encode_of_not_fits hmeant hfits []
  rw [List.append_nil] at hscan
  exact ⟨error, receive_of_fail hscan isEnded⟩

end Receive

/-- **Every answer of the server is read back by the client that has asked**, whatever
the bytes were that the server read, whatever it keeps and whatever else is on its
way: nothing is left of it, and it is not taken for bytes that are not legible. The
name of a document has a space for each carriage return in it; but for that the
response is the same. The content that was asked for has to be within the limit, and
the message that there is no document of the name has to fit on a line. -/
theorem answer_read_back {stream rest : Bytes} {request : Request}
    (hscan : Request.scan stream = .done request rest) (c : Connection) (d : Directory)
    (waiting : List Expect) (isEnded : Bool)
    (hcontent : ∀ name content, (c.handle d request).1.response = .document name content →
      content.utf8ByteSize ≤ maxContent)
    (hmessage : ∀ id name, request = .get name → c.held = some id →
      d.get id name = .error (.noDocument id name) →
      (DirectoryError.noDocument id name).message.utf8ByteSize ≤ maxLine) :
    let response := (c.handle d request).1.response
    ({ pending := request.expect :: waiting } : Pipeline).receive isEnded response.encode
        = (.done response.received [], { pending := waiting })
      ∧ ((∀ name content, response = .document name content → '\r' ∉ name.toList) →
        response.received = response) := by
  have hwithin : request.IsWithinLimits := Request.yields_scan hscan
  have hmeant : (c.handle d request).1.response.MeantBy
      ({ pending := request.expect :: waiting } : Pipeline).expected :=
    c.meantBy_handle d request
  refine ⟨receive_encode hmeant (Connection.fits_handle hwithin hcontent hmessage) isEnded,
    fun hreturn => ?_⟩
  refine (c.isPlain_handle d request).received_eq fun name content h => ?_
  obtain rfl := Connection.eq_get_of_document h
  have hname : IsName name := hwithin
  intro k hk
  constructor
  · rintro rfl
    exact hreturn name content h hk
  · rintro rfl
    exact hname.newline_notMem hk

/-- A content that reads like an answer. -/
theorem answer_read_back_of_content :
    let d : Directory :=
      { nextId := 2,
        entries :=
          [{ id := 1, documents := [{ name := "book", content := "error\nNo session open\n" }] }] }
    let answered := ({ held := some 1 } : Connection).handle d (.get "book")
    answered.1.response = .document "book" "error\nNo session open\n"
      ∧ ({ pending := [.document, .plain] } : Pipeline).receive false answered.1.response.encode
        = (.done answered.1.response [], { pending := [.plain] }) := by
  intro d answered
  have hscan : Request.scan (utf8 "get\nbook\n") = .done (.get "book") [] := rfl
  have hresponse : answered.1.response = .document "book" "error\nNo session open\n" := rfl
  have hfound : d.get 1 "book" = .ok "error\nNo session open\n" := rfl
  obtain ⟨hread, hsame⟩ := answer_read_back hscan { held := some 1 } d [.plain] false
    (by
      intro name content h
      cases hresponse.symm.trans h
      decide)
    (by
      rintro id name ⟨⟩ ⟨⟩ hnone
      cases hfound.symm.trans hnone)
  have hreceived : answered.1.response.received = answered.1.response := by
    refine hsame fun name content h => ?_
    cases hresponse.symm.trans h
    decide
  exact ⟨hresponse, hread.trans (by rw [hreceived])⟩

/-- A content of letters beyond the limit is refused. -/
theorem receive_content_letters {n : Nat} (h : maxContent < n) :
    ∃ error, ({ pending := [.document] } : Pipeline).receive false
      (Response.document "a" (letters n)).encode = (.fail error, { pending := [.document] }) := by
  have hmeant : (Response.document "a" (letters n)).MeantBy
      ({ pending := [.document] } : Pipeline).expected := rfl
  refine receive_encode_of_not_fits hmeant ?_ false
  rw [Response.fits, utf8ByteSize_letters, decide_eq_false (Nat.not_le.mpr h), Bool.and_false]

/-- The message that there is no document of a name that leaves no room for it on a
line is refused. -/
theorem receive_message_letters {n : Nat} (h : maxLine ≤ n) (id : UInt64) :
    ∃ error, ({ pending := [.document] } : Pipeline).receive false
      (Response.error (DirectoryError.noDocument id (letters n)).message).encode
        = (.fail error, { pending := [.document] }) := by
  have hlong := Nat.lt_of_le_of_lt h (lt_utf8ByteSize_noDocument id n)
  have hmeant : (Response.error (DirectoryError.noDocument id (letters n)).message).MeantBy
      ({ pending := [.document] } : Pipeline).expected := trivial
  refine receive_encode_of_not_fits hmeant ?_ false
  rw [Response.fits, decide_eq_false (Nat.not_le.mpr hlong)]

/-- What is not read back as it was: a name with a carriage return in it arrives with
a space. A content beyond the limit is refused, and so is the message that there is
no document of a name that has just fitted on its line. -/
theorem answer_not_read_back :
    (Request.scan (utf8 "get\na\rb\n") = .done (.get "a\rb") []
        ∧ (({ held := some 1 } : Connection).handle
            { nextId := 2,
              entries := [{ id := 1, documents := [{ name := "a\rb", content := "x" }] }] }
            (.get "a\rb")).1.response = .document "a\rb" "x"
        ∧ ({ pending := [.document] } : Pipeline).receive false
            (Response.document "a\rb" "x").encode = (.done (.document "a b" "x") [], {}))
      ∧ (let content := letters (maxContent + 1)
        Request.scan (utf8 "get\na\n") = .done (.get "a") []
        ∧ (({ held := some 1 } : Connection).handle
            { nextId := 2,
              entries := [{ id := 1, documents := [{ name := "a", content }] }] }
            (.get "a")).1.response = .document "a" content
        ∧ ∃ error, ({ pending := [.document] } : Pipeline).receive false
            (Response.document "a" content).encode
              = (.fail error, { pending := [.document] }))
      ∧ (let name := letters maxLine
        Request.scan (utf8 "get\n" ++ lineOf name) = .done (.get name) []
        ∧ (({ held := some 1 } : Connection).handle
            { nextId := 2, entries := [{ id := 1, documents := [] }] }
            (.get name)).1.response = .error (DirectoryError.noDocument 1 name).message
        ∧ ∃ error, ({ pending := [.document] } : Pipeline).receive false
            (Response.error (DirectoryError.noDocument 1 name).message).encode
              = (.fail error, { pending := [.document] })) := by
  refine ⟨⟨rfl, rfl, rfl⟩, ⟨rfl, rfl, ?_⟩, ⟨?_, rfl, ?_⟩⟩
  · exact receive_content_letters (Nat.lt_succ_self maxContent)
  · exact Request.scan_get_letters (Nat.le_refl maxLine)
  · exact receive_message_letters (Nat.le_refl maxLine) 1

end Pipeline

end Moorings.Session
