import Moorings.Proofs.Session.Links

/-!
# Documents at the far end of a connection

A document that a client posts is kept by the server under its name as it is received,
and is given back under a name without line breaks. So what is read after a post
(`Link.get_after_post`) depends on the names. Only under a name without carriage
returns is the content read back, and another document is left alone if its name is
still another one when it is received. That a post goes well is not enough for either.
-/

namespace Moorings.Session

namespace Connection

variable {id : UInt64} {d d' : Directory} {name content : String} {error : DirectoryError}

theorem handle_post_of_ok (h : d.put id name content = .ok d') :
    ({ held := some id } : Connection).handle d (.post name content)
      = ({ response := .success }, { held := some id }, d') := by
  simp only [handle, post, h]

theorem handle_post_of_error (h : d.put id name content = .error error) :
    ({ held := some id } : Connection).handle d (.post name content)
      = ({ response := .error error.message }, { held := some id }, d) := by
  simp only [handle, post, h]

theorem handle_get_of_ok (h : d.get id name = .ok content) :
    ({ held := some id } : Connection).handle d (.get name)
      = ({ response := .document name content }, { held := some id }, d) := by
  simp only [handle, get, h]

/-- What is told of a document depends on that document only. -/
theorem response_get_congr (h : d.get id name = d'.get id name) :
    (({ held := some id } : Connection).handle d (.get name)).1
      = (({ held := some id } : Connection).handle d' (.get name)).1 := by
  simp only [handle, get, h]

end Connection

namespace Link

section Documents

variable {patience : Span} {id : UInt64} {d d' : Directory} {name content : String}

/-- **A post that goes well** has kept the content under the name as it is received. -/
theorem call_post_of_ok {result : Result}
    (h : ((atRest patience (some id)).call d (.post name content)).1 = .ok result) :
    '\n' ∉ name.toList ∧ content.utf8ByteSize ≤ maxContent
      ∧ (received name).utf8ByteSize ≤ maxLine
      ∧ ∃ d', d.put id (received name) content = .ok d'
        ∧ (atRest patience (some id)).call d (.post name content)
          = (.ok .done, atRest patience (some id), d') := by
  cases hencode : (Call.post name content).request.encode with
  | error error =>
    rw [call_of_encode_error _ _ _ hencode] at h
    cases h
  | ok bytes =>
    cases hfits : (Call.post name content).request.fits with
    | false =>
      rw [call_of_not_fits _ _ _ hencode hfits] at h
      cases h
    | true =>
      obtain ⟨hname, hcontent, -⟩ := Request.encode_post_eq_ok_iff.mp hencode
      refine ⟨hname, hcontent, of_decide_eq_true hfits, ?_⟩
      have hcall := call_of_answered patience (some id) d hencode hfits
      have hmeant := meantBy_answered (some id) d (.post name content)
      cases hput : d.put id (received name) content with
      | error error =>
        have hhandle : ({ held := some id } : Connection).handle d
            (Call.post name content).request.received = _ := Connection.handle_post_of_error hput
        rw [hcall] at h
        have htold := Client.await_encode_of_ok patience (some id) _ false hmeant h
        rw [hhandle] at htold
        cases htold
      | ok d' =>
        have hhandle : ({ held := some id } : Connection).handle d
            (Call.post name content).request.received = _ := Connection.handle_post_of_ok hput
        rw [hhandle] at hcall hmeant
        refine ⟨d', rfl, hcall.trans ?_⟩
        rw [Client.await_encode patience (some id) _ false hmeant rfl]
        rfl

/-- **A get that is answered** is told the document of the name as it is received. -/
theorem call_get_of_found (hname : '\n' ∉ name.toList)
    (hfits : (received name).utf8ByteSize ≤ maxLine) (hcontent : content.utf8ByteSize ≤ maxContent)
    (h : d.get id (received name) = .ok content) :
    ((atRest patience (some id)).call d (.get name)).1 = .ok (.content content)
      ↔ '\r' ∉ name.toList := by
  have hencode : (Call.get name).request.encode = .ok _ :=
    Request.encode_get_eq_ok_iff.mpr ⟨hname, rfl⟩
  have hcall := call_of_answered patience (some id) d hencode (decide_eq_true hfits)
  have hmeant := meantBy_answered (some id) d (.get name)
  have hhandle : ({ held := some id } : Connection).handle d (Call.get name).request.received = _ :=
    Connection.handle_get_of_ok h
  have hresponse : (Response.document (received name) content).fits = true :=
    Bool.and_eq_true_iff.mpr ⟨decide_eq_true hfits, decide_eq_true hcontent⟩
  rw [hhandle] at hcall hmeant
  rw [hcall]
  dsimp only
  rw [Client.await_encode patience (some id) _ false hmeant hresponse, Response.received,
    Client.told_document, ← singleLine_received_eq_iff hname]
  by_cases hsame : singleLine (received name) = name
  · rw [if_pos hsame]
    exact iff_of_true rfl hsame
  · rw [if_neg hsame]
    exact iff_of_false (fun e => by cases e) hsame

/-- What is told of a document depends on that document only. -/
theorem call_get_congr (h : d.get id (received name) = d'.get id (received name)) :
    ((atRest patience (some id)).call d (.get name)).1
      = ((atRest patience (some id)).call d' (.get name)).1 := by
  cases hencode : (Call.get name).request.encode with
  | error error => rw [call_of_encode_error _ _ _ hencode, call_of_encode_error _ _ _ hencode]
  | ok bytes =>
    cases hfits : (Call.get name).request.fits with
    | false => rw [call_of_not_fits _ _ _ hencode hfits, call_of_not_fits _ _ _ hencode hfits]
    | true =>
      rw [call_of_answered _ _ _ hencode hfits, call_of_answered _ _ _ hencode hfits]
      have hreply : (({ held := some id } : Connection).handle d
          (Call.get name).request.received).1 = _ := Connection.response_get_congr h
      dsimp only
      rw [hreply]
      rfl

end Documents

/-- **What is read after a post that has gone well**, on whatever link and with whatever
directory. Others may have changed the directory meanwhile, but not the session that
is held. The content is read back, byte for byte, exactly if there is no carriage
return in its name. And of a document that has another name when it is received, the
same is told as just before. -/
theorem get_after_post {link : Link} (hlink : link.Reached) {id : UInt64}
    (hheld : link.client.session = some id) {d : Directory} {name content : String}
    (hpost : (link.call d (.post name content)).1 = .ok .done) {d' : Directory}
    (hagree : d'.find? id = (link.call d (.post name content)).2.2.find? id) :
    (((link.call d (.post name content)).2.1.call d' (.get name)).1 = .ok (.content content)
        ↔ '\r' ∉ name.toList)
      ∧ ∀ (earlier : Link) (d₀ : Directory) (other : String), earlier.Reached →
        (earlier.call d₀ (.get other)).2.1 = link → d₀.find? id = d.find? id →
        received other ≠ received name →
        ((link.call d (.post name content)).2.1.call d' (.get other)).1
          = (earlier.call d₀ (.get other)).1 := by
  obtain ⟨patience, hrest⟩ := hlink.eq_atRest hpost
  rw [hheld] at hrest
  subst hrest
  obtain ⟨hname, hcontent, hfits, after, hput, hcall⟩ := call_post_of_ok hpost
  rw [hcall] at hagree ⊢
  dsimp only at hagree ⊢
  have hread : ∀ other, d'.get id other
      = if other = received name then .ok content else d.get id other := fun other =>
    (Directory.get_congr hagree other).trans (Directory.get_of_put hput other)
  refine ⟨call_get_of_found hname hfits hcontent ((hread _).trans (if_pos rfl)), ?_⟩
  intro earlier d₀ other hearlier hlink₀ hagree₀ hother
  -- the link was at rest before the get, since it is after it
  have hfound : ¬((earlier.call d₀ (.get other)).2.1).IsLost := by
    rw [hlink₀]
    exact not_isLost_atRest patience (some id)
  obtain hlost | ⟨patience₀, session, rfl⟩ := hearlier.isLost_or_atRest
  · exact absurd (hlost.call d₀ (.get other)).1 hfound
  · obtain hlost | hsame := isLost_or_eq_atRest patience₀ session d₀ (.get other)
    · exact absurd hlost hfound
    · rw [hlink₀] at hsame
      obtain rfl : patience = patience₀ := congrArg (·.client.patience) hsame
      obtain rfl : some id = session := congrArg (·.client.session) hsame
      refine call_get_congr ((hread _).trans ((if_neg hother).trans ?_))
      exact (Directory.get_congr hagree₀ _).symm

/-- A link on which a session has been opened. -/
theorem reached_opened : (atRest (.ofSeconds 5) (some 1)).Reached := by
  have hcall : (atRest (.ofSeconds 5) none).call {} .openSession
      = (.ok (.session 1), atRest (.ofSeconds 5) (some 1), _) :=
    call_of_answered _ _ _ rfl rfl
  have hreached := Reached.called (.made (.ofSeconds 5)) {} .openSession
  exact (congrArg (fun called => Reached called.2.1) hcall).mp hreached

/-- A content with both kinds of line breaks, kept beside another document. -/
theorem get_after_post_of_notes :
    let link := atRest (.ofSeconds 5) (some 1)
    let d : Directory :=
      { nextId := 2, entries := [{ id := 1, documents := [{ name := "book", content := "x" }] }] }
    let posted := link.call d (.post "notes" "a\r\nb")
    link.Reached ∧ posted.1 = .ok .done
      ∧ (posted.2.1.call posted.2.2 (.get "notes")).1 = .ok (.content "a\r\nb")
      ∧ (link.call d (.get "book")).1 = .ok (.content "x")
      ∧ (posted.2.1.call posted.2.2 (.get "book")).1 = (link.call d (.get "book")).1 := by
  intro link d posted
  have hposted : posted = (.ok .done, link, _) := call_of_answered _ _ _ rfl rfl
  have hbook : link.call d (.get "book") = (.ok (.content "x"), link, _) :=
    call_of_answered _ _ _ rfl rfl
  have hpost : (link.call d (.post "notes" "a\r\nb")).1 = .ok .done := congrArg (·.1) hposted
  obtain ⟨hnotes, hothers⟩ := get_after_post reached_opened rfl hpost rfl
  exact ⟨reached_opened, hpost, hnotes.mpr (by decide), congrArg (·.1) hbook,
    hothers link d "book" reached_opened (congrArg (·.2.1) hbook) rfl (by decide)⟩

/-- A post under a name that ends in a carriage return goes well and changes another
document, and what it has kept is not read back. -/
theorem return_not_stored :
    let link := atRest (.ofSeconds 5) (some 1)
    let before : Directory :=
      { nextId := 2, entries := [{ id := 1, documents := [{ name := "a", content := "old" }] }] }
    let after : Directory :=
      { nextId := 2, entries := [{ id := 1, documents := [{ name := "a", content := "new" }] }] }
    link.Reached
      ∧ link.call before (.get "a") = (.ok (.content "old"), link, before)
      ∧ link.call before (.post "a\r" "new") = (.ok .done, link, after)
      ∧ link.call after (.get "a") = (.ok (.content "new"), link, after)
      ∧ (link.call after (.get "a\r")).1 ≠ .ok (.content "new") := by
  refine ⟨reached_opened, call_of_answered _ _ _ rfl rfl, call_of_answered _ _ _ rfl rfl,
    call_of_answered _ _ _ rfl rfl, ?_⟩
  exact fun hback =>
    absurd ((call_get_of_found (by decide) (by decide) (by decide) rfl).mp hback) (by decide)

end Link

end Moorings.Session
