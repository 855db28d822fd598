import Moorings.Session.Pipeline
import Moorings.Proofs.Session.Lines

/-!
# A request that is sent

What a client writes is read by the server from the front of a stream, whatever
comes after it. `Request.scan_encode` says what is read of any request that can be
written: the same request, with the name as it is received
(`Request.received`), or nothing at all if the name makes too long a line
(`Request.fits`).

So a request does not always arrive as it was sent. It does exactly if its name is
one that a line can carry (`Pipeline.read_back_iff`): it does not end in a carriage
return, and is no longer than a line may be. Writing a request only looks for line
feeds in the name, and refuses neither of the two.
-/

namespace Moorings.Session

open Text (utf8 ofUtf8?)

namespace Request

/-- The name of a document that a request is about. -/
def name? : Request → Option String
  | get name => some name
  | post name _ => some name
  | _ => none

/-- **What is received of a request**: its name is a line of its own. -/
def received : Request → Request
  | get name => get (Session.received name)
  | post name content => post (Session.received name) content
  | request => request

/-- Whether what is received of the name is no longer than a line may be. -/
def fits (request : Request) : Bool :=
  request.name?.all fun name => (Session.received name).utf8ByteSize ≤ maxLine

/-! ## What can be written -/

theorem checkName_eq_ok_iff {name : String} : checkName name = .ok () ↔ '\n' ∉ name.toList := by
  unfold checkName
  split
  · rename_i h
    exact iff_of_false (fun e => by cases e) (not_not.mpr (List.contains_iff_mem.mp h))
  · rename_i h
    exact iff_of_true rfl fun hmem => h (List.contains_iff_mem.mpr hmem)

theorem checkContent_eq_ok_iff {length : Nat} :
    checkContent length = .ok () ↔ length ≤ maxContent := by
  unfold checkContent
  split
  · rename_i h
    exact iff_of_false (fun e => by cases e) (Nat.not_le.mpr h)
  · rename_i h
    exact iff_of_true rfl (Nat.not_lt.mp h)

/-- **A get can be written** if there is no line feed in its name. -/
theorem encode_get_eq_ok_iff {name : String} {bytes : Bytes} :
    (get name).encode = .ok bytes
      ↔ '\n' ∉ name.toList ∧ lineOf Verb.get.word ++ lineOf name = bytes := by
  rw [← checkName_eq_ok_iff]
  cases hname : checkName name with
  | error error =>
    have hencode : (get name).encode = .error error := by rw [encode, hname]; rfl
    rw [hencode]
    exact iff_of_false (fun e => by cases e) fun h => by cases h.1
  | ok =>
    have hencode : (get name).encode = .ok (lineOf Verb.get.word ++ lineOf name) := by
      rw [encode, hname]
      rfl
    rw [hencode, Except.ok.injEq]
    exact (and_iff_right rfl).symm

/-- **A post can be written** if there is no line feed in its name and its content
is not too long. -/
theorem encode_post_eq_ok_iff {name content : String} {bytes : Bytes} :
    (post name content).encode = .ok bytes
      ↔ '\n' ∉ name.toList ∧ content.utf8ByteSize ≤ maxContent
        ∧ lineOf Verb.post.word ++ lineOf name ++ numberLine content.utf8ByteSize
          ++ utf8 content = bytes := by
  rw [← checkName_eq_ok_iff, ← checkContent_eq_ok_iff]
  cases hname : checkName name with
  | error error =>
    have hencode : (post name content).encode = .error error := by rw [encode, hname]; rfl
    rw [hencode]
    exact iff_of_false (fun e => by cases e) fun h => by cases h.1
  | ok =>
    cases hcontent : checkContent content.utf8ByteSize with
    | error error =>
      have hencode : (post name content).encode = .error error := by
        rw [encode, hname, hcontent]
        rfl
      rw [hencode]
      exact iff_of_false (fun e => by cases e) fun h => by cases h.2.1
    | ok =>
      have hencode : (post name content).encode
          = .ok (lineOf Verb.post.word ++ lineOf name ++ numberLine content.utf8ByteSize
            ++ utf8 content) := by
        rw [encode, hname, hcontent]
        rfl
      rw [hencode, Except.ok.injEq]
      exact ((and_iff_right rfl).trans (and_iff_right rfl)).symm

/-! ## What is read -/

/-- The word that a request begins with says what is to be read after it. -/
theorem scan_word (verb : Verb) (rest : Bytes) :
    scan (lineOf verb.word ++ rest) = scanAfter verb rest := by
  have hline : Scan.line (lineOf verb.word ++ rest) = .done (utf8 verb.word) rest := by
    refine Scan.line_of_isOneLine ?_ ?_ rest
    · cases verb <;> decide
    · cases verb <;> decide
  unfold scan
  rw [Scan.bind_of_done hline, Verb.ofLine?_word]

theorem scanId_numberLine (verb : Verb) (request : UInt64 → Request) (id : UInt64)
    (rest : Bytes) :
    scanId verb request (numberLine id.toNat ++ rest) = .done (request id) rest := by
  unfold scanId
  rw [Scan.bind_of_done (Scan.line_numberLine id.toNat_lt rest), readId?_utf8_repr]
  rfl

theorem scanGet_lineOf {name : String} (h : '\n' ∉ name.toList) (rest : Bytes) :
    scanGet (lineOf name ++ rest)
      = if maxLine < (Session.received name).utf8ByteSize then .fail (.lineTooLong maxLine)
        else .done (.get (Session.received name)) rest := by
  have hline := Scan.line_lineOf h rest
  unfold scanGet
  split at hline
  · rename_i hlong
    rw [Scan.bind_of_fail hline, if_pos hlong]
  · rename_i hlong
    rw [Scan.bind_of_done hline, Text.ofUtf8?_utf8, if_neg hlong]
    rfl

theorem scanPost_lineOf {name content : String} (h : '\n' ∉ name.toList)
    (hcontent : content.utf8ByteSize ≤ maxContent) (rest : Bytes) :
    scanPost (lineOf name ++ (numberLine content.utf8ByteSize ++ (utf8 content ++ rest)))
      = if maxLine < (Session.received name).utf8ByteSize then .fail (.lineTooLong maxLine)
        else .done (.post (Session.received name) content) rest := by
  have hsize : content.utf8ByteSize < UInt64.size := Nat.lt_of_le_of_lt hcontent (by decide)
  have hline := Scan.line_lineOf h (numberLine content.utf8ByteSize ++ (utf8 content ++ rest))
  unfold scanPost
  split at hline
  · rename_i hlong
    rw [Scan.bind_of_fail hline, if_pos hlong]
  · rename_i hlong
    rw [Scan.bind_of_done hline, Scan.bind_of_done (Scan.line_numberLine hsize _),
      readLength?_utf8_repr hsize]
    dsimp only
    rw [checkContent_eq_ok_iff.mpr hcontent]
    dsimp only
    rw [Scan.bind_of_done (Scan.bytes_utf8 content rest), Text.ofUtf8?_utf8,
      Text.ofUtf8?_utf8, if_neg hlong]
    rfl

/-- **The law of a request that is sent.** Whatever follows it in the stream is
left, and what is read is the request as it is received, unless its name makes
too long a line. -/
theorem scan_encode {request : Request} {bytes : Bytes}
    (hvalid : ∀ line, request ≠ .invalid line) (h : request.encode = .ok bytes) (rest : Bytes) :
    scan (bytes ++ rest)
      = if request.fits then .done request.received rest else .fail (.lineTooLong maxLine) := by
  cases request with
  | openSession =>
    cases h
    exact scan_word .openSession rest
  | resume id =>
    cases h
    rw [List.append_assoc, scan_word]
    exact scanId_numberLine _ _ id rest
  | close id =>
    cases h
    rw [List.append_assoc, scan_word]
    exact scanId_numberLine _ _ id rest
  | get name =>
    obtain ⟨hname, rfl⟩ := encode_get_eq_ok_iff.mp h
    rw [List.append_assoc, scan_word]
    refine (scanGet_lineOf hname rest).trans ?_
    simp only [← Nat.not_le, ite_not, fits, name?, Option.all_some, decide_eq_true_eq, received]
  | post name content =>
    obtain ⟨hname, hcontent, rfl⟩ := encode_post_eq_ok_iff.mp h
    rw [List.append_assoc, List.append_assoc, List.append_assoc, scan_word]
    refine (scanPost_lineOf hname hcontent rest).trans ?_
    simp only [← Nat.not_le, ite_not, fits, name?, Option.all_some, decide_eq_true_eq, received]
  | invalid line => exact absurd rfl (hvalid line)

/-! ## Which requests arrive as they were sent -/

theorem received_eq_self_iff {request : Request} :
    request.received = request
      ↔ ∀ name, request.name? = some name → Session.received name = name := by
  cases request with
  | get name =>
    simp only [received, name?, get.injEq, Option.some.injEq, forall_eq']
  | post name content =>
    simp only [received, name?, post.injEq, and_true, Option.some.injEq, forall_eq']
  | openSession => exact iff_of_true rfl fun name h => by cases h
  | resume id => exact iff_of_true rfl fun name h => by cases h
  | close id => exact iff_of_true rfl fun name h => by cases h
  | invalid line => exact iff_of_true rfl fun name h => by cases h

/-- A name that arrives as it was sent makes a request that does. -/
theorem fits_and_received_eq_self_iff {request : Request} :
    request.fits = true ∧ request.received = request
      ↔ ∀ name, request.name? = some name → Travels name := by
  rw [received_eq_self_iff]
  unfold fits
  cases request.name? with
  | none => exact iff_of_true ⟨rfl, fun name h => by cases h⟩ fun name h => by cases h
  | some name =>
    simp only [Option.all_some, decide_eq_true_eq, Option.some.injEq, forall_eq']
    constructor
    · rintro ⟨hfits, heq⟩
      exact ⟨Session.received_eq_self_iff.mp heq, heq ▸ hfits⟩
    · intro h
      exact ⟨h.received_eq.symm ▸ h.fits, h.received_eq⟩

end Request

namespace Pipeline

/-- A request is sent if it can be written, and is the last on its way then. -/
theorem send_eq_ok_iff {p p' : Pipeline} {request : Request} {bytes : Bytes} :
    p.send request = .ok (bytes, p')
      ↔ request.encode = .ok bytes ∧ { pending := p.pending ++ [request.expect] } = p' := by
  cases hencode : request.encode with
  | error error =>
    have hsend : p.send request = .error error := by rw [send, hencode]; rfl
    rw [hsend]
    exact iff_of_false (fun e => by cases e) fun h => by cases h.1
  | ok written =>
    have hsend : p.send request
        = .ok (written, { pending := p.pending ++ [request.expect] }) := by
      rw [send, hencode]
      rfl
    rw [hsend, Except.ok.injEq, Except.ok.injEq, Prod.mk.injEq]

/-- **A request is read back exactly if its name travels**, whatever it asks for,
whatever its content is and whatever follows it in the stream. What follows is
left. That a request can be sent is not enough for it: its name may still end in
a carriage return, or be longer than a line. -/
theorem read_back_iff {p p' : Pipeline} {request : Request} {bytes : Bytes}
    (hvalid : ∀ line, request ≠ .invalid line) (hsend : p.send request = .ok (bytes, p'))
    (rest : Bytes) :
    Request.scan (bytes ++ rest) = .done request rest
      ↔ ∀ name, request.name? = some name → Travels name := by
  rw [Request.scan_encode hvalid (send_eq_ok_iff.mp hsend).1,
    ← Request.fits_and_received_eq_self_iff]
  cases request.fits with
  | true => simp only [if_true, Reading.done.injEq, and_true, true_and]
  | false => exact iff_of_false (fun e => by cases e) fun h => Bool.false_ne_true h.1

/-- A content that reads like a request, before a request. -/
theorem read_back_of_content :
    ({} : Pipeline).send (.post "notes" "close\n1\n")
        = .ok (utf8 "post\nnotes\n8\nclose\n1\n", { pending := [.plain] })
      ∧ Request.scan (utf8 "post\nnotes\n8\nclose\n1\n" ++ utf8 "open\n")
        = .done (.post "notes" "close\n1\n") (utf8 "open\n") := by
  have hsend : ({} : Pipeline).send (.post "notes" "close\n1\n")
      = .ok (utf8 "post\nnotes\n8\nclose\n1\n", { pending := [.plain] }) := rfl
  refine ⟨hsend, (read_back_iff (fun _ => Request.noConfusion) hsend _).mpr ?_⟩
  rintro name ⟨⟩
  exact ⟨by decide, by decide⟩

/-- A carriage return at the end of a name does not arrive, and another document
is asked for. -/
theorem return_not_read_back :
    ({} : Pipeline).send (.get "a\r") = .ok (utf8 "get\na\r\n", { pending := [.document] })
      ∧ Request.scan (utf8 "get\na\r\n") = .done (.get "a") []
      ∧ Request.get "a" ≠ .get "a\r" :=
  ⟨rfl, rfl, by decide⟩

end Pipeline

end Moorings.Session
