import Moorings.Session.Client
import Moorings.Proofs.Session.Answering

/-!
# What comes of a response that is written

A response may have any text and any content, and there are two limits: one for the
line that a text is, and one for the content. `Pipeline.response_read_back` tells from
the sizes alone what a client makes of the bytes, if it expects what they are. Within
the limits, and at them, it reads the response with a space for each line break in its
text, takes the request that it answers off the pipeline, and leaves exactly what follows.
One byte beyond, it says which limit is broken, the one for the text first, and both the
buffer and the pipeline are as they were.

The length of a content is told in bytes, and as a number of 64 bits, as every length
is. No content is so long that its length is none; if one were, it would be refused as
well, as something that is no number.
-/

namespace Moorings.Session

open Text (utf8)

/-- **What stays in a buffer** that has been read from: what follows the thing that has
been read, and all of it if nothing has been. -/
def Reading.left {α : Type} (buffer : Bytes) : Reading α → Bytes
  | .done _ rest => rest
  | .more | .fail _ => buffer

/-- A client keeps what stays in its buffer. -/
theorem Client.inbox_receive (c : Client) (arriving : Bytes) (isEnded : Bool) :
    (c.receive arriving isEnded).2.inbox
      = (c.pipeline.receive isEnded (c.inbox ++ arriving)).1.left (c.inbox ++ arriving) := by
  unfold Client.receive
  cases hread : c.pipeline.receive isEnded (c.inbox ++ arriving) with
  | mk read pipeline =>
    simp only [hread]
    cases read with
    | more => cases isEnded <;> rfl
    | fail error => rfl
    | done response rest => rfl

namespace Pipeline

variable {p : Pipeline} {response : Response}

/-- A response is meant as it is expected if a document is expected where it is one, and
not expected where it is a bare success. -/
theorem meantBy_expected
    (hdocument : ∀ name content, response = .document name content →
      p.pending.head? = some .document)
    (hsuccess : response = .success → p.pending.head? ≠ some .document) :
    response.MeantBy p.expected := by
  cases response with
  | document name content =>
    show p.pending.head?.getD .plain = .document
    rw [hdocument name content rfl]
    rfl
  | success =>
    show p.pending.head?.getD .plain = .plain
    cases h : p.pending.head? with
    | none => rfl
    | some expect =>
      cases expect with
      | document => exact absurd h (hsuccess rfl)
      | plain => rfl
  | accepted id => exact trivial
  | rejected reason => exact trivial
  | closed id => exact trivial
  | error message => exact trivial

/-- **A response is read back up to the limits and not beyond them**, whatever else is on
its way, whatever follows it, and whether the stream ends there or not. -/
theorem response_read_back
    (hdocument : ∀ name content, response = .document name content →
      p.pending.head? = some .document)
    (hsuccess : response = .success → p.pending.head? ≠ some .document)
    (following : Bytes) (isEnded : Bool) :
    let buffer := response.encode ++ following
    let read := p.receive isEnded buffer
    (response.TextFits → response.ContentFits →
        read = (.done response.received following, { pending := p.pending.tail })
          ∧ read.1.left buffer = following)
      ∧ (¬response.TextFits →
        read = (.fail (.lineTooLong maxLine), p) ∧ read.1.left buffer = buffer)
      ∧ (response.TextFits → ∀ content, response.content? = some content →
        maxContent < content.utf8ByteSize →
        ∃ error, read = (.fail error, p) ∧ read.1.left buffer = buffer
          ∧ (content.utf8ByteSize < UInt64.size →
            error = .tooLarge content.utf8ByteSize maxContent)) := by
  intro buffer read
  have hmeant : response.MeantBy p.expected := meantBy_expected hdocument hsuccess
  refine ⟨fun htext hcontent => ?_, fun htext => ?_, fun htext content hcontent hlong => ?_⟩
  · have hfits := Response.fits_eq_true_iff.mpr ⟨htext, hcontent⟩
    have hread : read = (.done response.received following, { pending := p.pending.tail }) :=
      receive_of_done (Response.scan_encode_of_fits hmeant hfits following) isEnded
    rw [hread]
    exact ⟨rfl, rfl⟩
  · have hread : read = (.fail (.lineTooLong maxLine), p) :=
      receive_of_fail (Response.scan_encode_of_not_textFits hmeant htext following) isEnded
    rw [hread]
    exact ⟨rfl, rfl⟩
  · obtain ⟨error, hfail, herror⟩ :=
      Response.scan_encode_of_lt hmeant htext hcontent hlong following
    have hread : read = (.fail error, p) := receive_of_fail hfail isEnded
    rw [hread]
    exact ⟨error, rfl, rfl, herror⟩

/-- A message of letters is within the limit if there are no more of them than a line may
have. -/
theorem textFits_letters_iff {n : Nat} :
    (Response.error (letters n)).TextFits ↔ n ≤ maxLine := by
  constructor
  · intro hfits
    have hshort := hfits (letters n) rfl
    rwa [utf8ByteSize_letters] at hshort
  · rintro h text ⟨⟩
    rwa [utf8ByteSize_letters]

/-- A document whose name has line breaks is read with spaces, and its content as it is,
which reads like an answer and has another answer after it. A message of as many letters
as a line may have is read, and one of one letter more is not; and neither is a content of
one letter more than there may be. -/
theorem response_read_back_of_breaks :
    ({ pending := [.document, .plain] } : Pipeline).receive false
        ((Response.document "a\r\nb" "closed\n7\n").encode ++ utf8 "success\n")
        = (.done (.document "a  b" "closed\n7\n") (utf8 "success\n"), { pending := [.plain] })
      ∧ ({} : Pipeline).receive false (Response.error (letters maxLine)).encode
        = (.done (.error (letters maxLine)) [], {})
      ∧ ({} : Pipeline).receive false (Response.error (letters (maxLine + 1))).encode
        = (.fail (.lineTooLong maxLine), {})
      ∧ ({ pending := [.document] } : Pipeline).receive false
          (Response.document "a" (letters (maxContent + 1))).encode
        = (.fail (.tooLarge (maxContent + 1) maxContent), { pending := [.document] }) := by
  have hmessage := fun n => @response_read_back {} (.error (letters n)) (fun _ _ h => nomatch h)
    (fun h => nomatch h) [] false
  simp only [List.append_nil] at hmessage
  refine ⟨?_, ?_, ?_, ?_⟩
  · obtain ⟨hread, -, -⟩ := @response_read_back { pending := [.document, .plain] }
      (.document "a\r\nb" "closed\n7\n") (fun _ _ _ => rfl) (fun h => nomatch h)
      (utf8 "success\n") false
    refine (hread ?_ ?_).1
    · rintro text ⟨⟩
      decide
    · rintro content ⟨⟩
      decide
  · obtain ⟨hread, -, -⟩ := hmessage maxLine
    have hsame : (Response.error (letters maxLine)).received = .error (letters maxLine) :=
      congrArg Response.error (isOneLine_letters maxLine).singleLine_eq
    rw [hsame] at hread
    exact (hread (textFits_letters_iff.mpr (Nat.le_refl maxLine)) (fun _ h => nomatch h)).1
  · obtain ⟨-, hread, -⟩ := hmessage (maxLine + 1)
    exact (hread fun hfits => Nat.not_succ_le_self maxLine (textFits_letters_iff.mp hfits)).1
  · -- the content is too long to be looked at, so the number of its letters is left open
    have hcontent : ∀ n, maxContent < n → n < UInt64.size →
        ({ pending := [.document] } : Pipeline).receive false
            (Response.document "a" (letters n)).encode
          = (.fail (.tooLarge n maxContent), { pending := [.document] }) := by
      intro n hlong hsize
      obtain ⟨-, -, hread⟩ := @response_read_back { pending := [.document] }
        (.document "a" (letters n)) (fun _ _ _ => rfl) (fun h => nomatch h) [] false
      rw [List.append_nil] at hread
      have hname : (Response.document "a" (letters n)).TextFits := by
        rintro text ⟨⟩
        decide
      obtain ⟨error, hfail, -, herror⟩ := hread hname (letters n) rfl
        (by rwa [utf8ByteSize_letters])
      rw [utf8ByteSize_letters] at herror
      rw [hfail, herror hsize]
    exact hcontent (maxContent + 1) (Nat.lt_succ_self maxContent) (by decide)

end Pipeline

end Moorings.Session
