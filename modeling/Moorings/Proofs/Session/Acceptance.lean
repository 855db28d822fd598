import Moorings.Proofs.Session.Delays

/-!
# What a client takes for its answer

A client cannot know who is at the other end of its connection. Whatever comes is read as
a response to what was asked, and it is left to the call to tell whether it answers it
(`Answers`). If it does not, and is no refusal either, nothing that comes later can be
trusted to be in step with the calls: the client gives up, and nothing is sent any more
(`Client.ok_iff_believes`).

A document is taken for the answer to a get only under the name that was asked for. Of a
session it is only asked that there is one (`IsOfAnother`): a client that asks for session 5
believes that it holds session 7, and one that closes session 1 believes that it is closed
when session 2 is (`Client.believes_another_session`).
-/

namespace Moorings.Session

open Text (utf8)

/-! ## Answers -/

/-- **What answers a call**, and what the call tells then. -/
inductive Answers : Call → Response → Result → Prop
  | opened (id : UInt64) : Answers .openSession (.accepted id) (.session id)
  | resumed (id : UInt64) : Answers (.resume id) (.accepted id) (.session id)
  | closed (id : UInt64) : Answers (.close id) (.closed id) (.ended id)
  | got (name content : String) : Answers (.get name) (.document name content) (.content content)
  | posted (name content : String) : Answers (.post name content) .success .done

/-- What would answer a call if it were about the session that was asked for. -/
inductive IsOfAnother : Call → Response → Result → Prop
  | resumed {asked id : UInt64} (h : id ≠ asked) :
    IsOfAnother (.resume asked) (.accepted id) (.session id)
  | closed {asked id : UInt64} (h : id ≠ asked) :
    IsOfAnother (.close asked) (.closed id) (.ended id)

/-- **What a call takes for its answer**: also what is about another session. -/
def Believes (call : Call) (response : Response) (result : Result) : Prop :=
  Answers call response result ∨ IsOfAnother call response result

variable {call : Call} {response : Response} {result : Result}

theorem believes_resume (asked id : UInt64) :
    Believes (.resume asked) (.accepted id) (.session id) := by
  obtain rfl | h := eq_or_ne id asked
  · exact .inl (.resumed id)
  · exact .inr (.resumed h)

theorem believes_close (asked id : UInt64) : Believes (.close asked) (.closed id) (.ended id) := by
  obtain rfl | h := eq_or_ne id asked
  · exact .inl (.closed id)
  · exact .inr (.closed h)

/-- What a call accepts is what it takes for its answer. -/
theorem Call.accept_eq_some_iff :
    call.accept response = some result ↔ Believes call response result := by
  constructor
  · intro h
    unfold accept at h
    split at h
    · cases h
      exact .inl (.opened _)
    · cases h
      exact believes_resume _ _
    · cases h
      exact believes_close _ _
    · split at h
      · rename_i hname
        cases h
        rw [hname]
        exact .inl (.got _ _)
      · cases h
    · cases h
      exact .inl (.posted _ _)
    · cases h
  · rintro (hanswers | hother)
    · cases hanswers with
      | got name content => exact if_pos rfl
      | opened => rfl
      | resumed => rfl
      | closed => rfl
      | posted => rfl
    · cases hother with
      | resumed => rfl
      | closed => rfl

/-- Whether the server refuses what it was asked. -/
def Response.isRefusal : Response → Bool
  | .rejected _ | .error _ => true
  | _ => false

/-- A refusal answers nothing. -/
theorem Believes.isRefusal_eq_false (h : Believes call response result) :
    response.isRefusal = false := by
  obtain hanswers | hother := h
  · cases hanswers <;> rfl
  · cases hother <;> rfl

namespace Client

variable {c : Client} {arriving : Bytes} {isEnded : Bool}

/-! ## What is told -/

/-- What is no refusal goes to the call. -/
theorem told_of_isRefusal_eq_false (c : Client) (call : Call) (h : response.isRefusal = false) :
    c.told call response
      = match call.accept response with
        | some result => (.ok result, c.remember result)
        | none => (.error (.protocol (.unexpectedResponse response.shown)), c.giveUp) := by
  cases response <;> first | rfl | cases h

theorem told_of_believes (c : Client) (h : Believes call response result) :
    c.told call response = (.ok result, c.remember result) := by
  rw [told_of_isRefusal_eq_false c call h.isRefusal_eq_false, Call.accept_eq_some_iff.mpr h]

/-- Over what is neither taken for an answer nor a refusal, the client gives up. -/
theorem told_of_not_believes (c : Client) (hrefusal : response.isRefusal = false)
    (h : ∀ result, ¬Believes call response result) :
    c.told call response
      = (.error (.protocol (.unexpectedResponse response.shown)), c.giveUp) := by
  have haccept : call.accept response = none :=
    Option.eq_none_iff_forall_ne_some.mpr fun result hsome =>
      h result (Call.accept_eq_some_iff.mp hsome)
  rw [told_of_isRefusal_eq_false c call hrefusal, haccept]

/-- **A client is told that a call went well** only by what it takes for an answer. -/
theorem told_fst_eq_ok_iff :
    (c.told call response).1 = .ok result ↔ Believes call response result := by
  constructor
  · intro h
    cases hrefusal : response.isRefusal with
    | true => cases response <;> cases hrefusal <;> cases h
    | false =>
      rw [told_of_isRefusal_eq_false c call hrefusal] at h
      split at h
      · rename_i haccept
        cases h
        exact Call.accept_eq_some_iff.mp haccept
      · cases h
  · intro h
    rw [told_of_believes c h]

/-- What the server has said is nothing to give up over. -/
theorem isBroken_told (h : isAnswer (c.told call response).1 = true) :
    (c.told call response).2.isBroken = c.isBroken := by
  obtain ⟨hfatal, -⟩ | ⟨-, session, htold⟩ := c.told_cases call response
  · exact absurd h hfatal.not_isAnswer
  · rw [htold]

/-! ## One call, and those after it -/

/-- **The response that is read for a call**, if the request is sent and a whole response
has come. -/
def reply? (c : Client) (call : Call) (arriving : Bytes) (isEnded : Bool) : Option Response :=
  match c.send (.ok ()) call.request with
  | (.error _, _) => none
  | (.ok _, c) => (c.receive arriving isEnded).1.toOption

/-- Reading a response is nothing to give up over either. -/
theorem isBroken_of_receive {client : Client}
    (h : c.receive arriving isEnded = (.ok response, client)) : client.isBroken = c.isBroken := by
  unfold receive at h
  dsimp only at h
  split at h
  · cases h
    rfl
  · cases h
  · split at h <;> cases h

/-- **What may come of a call**: no response is read for it, and it does not go well, or
it is told what the response says. -/
theorem call_cases (c : Client) (call : Call) (arriving : Bytes) (isEnded : Bool) :
    (c.reply? call arriving isEnded = none
        ∧ ∃ error, (c.call call arriving isEnded).1.result = .error error)
      ∨ ∃ (response : Response) (sent : Bytes) (client : Client),
        c.reply? call arriving isEnded = some response ∧ client.isBroken = false
          ∧ c.call call arriving isEnded
            = ({ sent, result := (client.told call response).1 },
              (client.told call response).2) := by
  unfold reply? Client.call
  obtain ⟨error, client, hsend, -⟩ | ⟨hbroken, sent, pipeline, hsend⟩ :=
    c.send_cases (.ok ()) call.request
  · rw [hsend]
    exact .inl ⟨rfl, error, rfl⟩
  · rw [hsend]
    dsimp only
    cases hreceive : ({ c with pipeline } : Client).receive arriving isEnded with
    | mk read client =>
      cases read with
      | error error =>
        rw [await_of_error hreceive]
        exact .inl ⟨rfl, error, rfl⟩
      | ok response =>
        rw [await_of_ok hreceive]
        exact .inr ⟨response, sent, client, rfl, (isBroken_of_receive hreceive).trans hbroken, rfl⟩

/-- A call for which a response is read is told what it says. -/
theorem call_of_reply (h : c.reply? call arriving isEnded = some response) :
    ∃ client : Client, client.isBroken = false
      ∧ (c.call call arriving isEnded).1.result = (client.told call response).1
      ∧ (c.call call arriving isEnded).2 = (client.told call response).2 := by
  obtain ⟨hreply, -⟩ | ⟨read, sent, client, hreply, hbroken, hcall⟩ :=
    c.call_cases call arriving isEnded
  · cases hreply.symm.trans h
  · cases hreply.symm.trans h
    exact ⟨client, hbroken, congrArg (·.1.result) hcall, congrArg (·.2) hcall⟩

/-- **A call goes well** exactly for what it takes for its answer. -/
theorem result_call_eq_ok_iff :
    (c.call call arriving isEnded).1.result = .ok result
      ↔ ∃ response, c.reply? call arriving isEnded = some response
        ∧ Believes call response result := by
  constructor
  · intro h
    obtain ⟨-, error, herror⟩ | ⟨response, sent, client, hreply, -, hcall⟩ :=
      c.call_cases call arriving isEnded
    · cases herror.symm.trans h
    · rw [hcall] at h
      exact ⟨response, hreply, told_fst_eq_ok_iff.mp h⟩
  · rintro ⟨response, hreply, hbelieves⟩
    obtain ⟨client, -, hresult, -⟩ := call_of_reply hreply
    rw [hresult, told_fst_eq_ok_iff]
    exact hbelieves

/-- Nothing is read at the end of the stream, or over what the client gives up. -/
theorem isBroken_of_receive_error {client : Client} {error : ClientError}
    (h : c.receive arriving isEnded = (.error error, client)) :
    error = .disconnected ∨ client.isBroken = true := by
  unfold receive at h
  dsimp only at h
  split at h
  · cases h
  · cases h
    exact .inr rfl
  · split at h
    · cases h
      exact .inl rfl
    · cases h
      exact .inr rfl

/-- **After a fatal call** the client has given up. -/
theorem isBroken_of_isFatal (h : IsFatal (c.call call arriving isEnded).1.result) :
    (c.call call arriving isEnded).2.isBroken = true := by
  unfold Client.call at h ⊢
  obtain ⟨error, client, hsend, hbroken⟩ | ⟨-, sent, pipeline, hsend⟩ :=
    c.send_cases (.ok ()) call.request
  · rw [hsend]
    exact hbroken
  · rw [hsend] at h ⊢
    dsimp only at h ⊢
    cases hreceive : ({ c with pipeline } : Client).receive arriving isEnded with
    | mk read client =>
      cases read with
      | error error =>
        rw [await_of_error hreceive] at h ⊢
        obtain rfl | hbroken := isBroken_of_receive_error hreceive
        · cases h
        · exact hbroken
      | ok response =>
        rw [await_of_ok hreceive] at h ⊢
        obtain ⟨-, hbroken⟩ | ⟨hanswer, -⟩ := client.told_cases call response
        · exact hbroken
        · exact absurd hanswer h.not_isAnswer

/-- **A client that has given up** sends nothing more, and finds the connection gone. -/
theorem callAll_of_isBroken (h : c.isBroken = true) (isEnded : Bool)
    (script : List (Call × Bytes × Bool)) :
    c.callAll isEnded script
      = script.map fun _ => ({ sent := [], result := .error .disconnected }, c.session) := by
  induction script generalizing isEnded with
  | nil => rfl
  | cons entry script ih =>
    obtain ⟨call, arriving, ends⟩ := entry
    have hcall : ∀ arriving isEnded, c.call call arriving isEnded
        = ({ sent := [], result := .error .disconnected }, c) := by
      intro arriving isEnded
      unfold Client.call
      rw [send_of_isBroken h]
    rw [callAll]
    dsimp only
    rw [hcall, ih]
    rfl

/-- **A call goes well exactly for what it takes for its answer**, whatever the server
sends and whatever has been sent before: for what answers it, and for what would answer it
if it were about the session that was asked for. A refusal is told as it is, and the
connection goes on. Over any other response the client gives up, as over what is not
legible and when nothing comes in time: whatever is called later and whatever arrives then,
nothing is sent, and the connection is gone. -/
theorem ok_iff_believes (c : Client) (call : Call) (arriving : Bytes) (isEnded : Bool) :
    let turn := (c.call call arriving isEnded).1
    let after := (c.call call arriving isEnded).2
    (∀ result, turn.result = .ok result ↔
        ∃ response, c.reply? call arriving isEnded = some response
          ∧ (Answers call response result ∨ IsOfAnother call response result))
      ∧ (∀ response, c.reply? call arriving isEnded = some response →
        (∀ result, turn.result = .ok result → after.isBroken = false)
        ∧ (∀ reason, response = .rejected reason →
          turn.result = .error (.rejected reason) ∧ after.isBroken = false)
        ∧ (∀ text, response = .error text →
          turn.result = .error (.server text) ∧ after.isBroken = false)
        ∧ (response.isRefusal = false →
          (∀ result, ¬(Answers call response result ∨ IsOfAnother call response result)) →
          turn.result = .error (.protocol (.unexpectedResponse response.shown))))
      ∧ (IsFatal turn.result →
        ∀ (isEnded : Bool) (script : List (Call × Bytes × Bool)),
          after.callAll isEnded script
            = script.map fun _ =>
              ({ sent := [], result := .error .disconnected }, after.session)) := by
  intro turn after
  refine ⟨fun result => result_call_eq_ok_iff, fun response hreply => ?_,
    fun hfatal => callAll_of_isBroken (isBroken_of_isFatal hfatal)⟩
  obtain ⟨client, hbroken, (hturn : turn.result = _), (hafter : after = _)⟩ := call_of_reply hreply
  rw [hturn, hafter]
  refine ⟨fun result h => ?_, ?_, ?_, fun hrefusal hnone => ?_⟩
  · have hanswer : isAnswer (client.told call response).1 = true := by
      rw [h]
      rfl
    exact (isBroken_told hanswer).trans hbroken
  · rintro reason rfl
    exact ⟨rfl, hbroken⟩
  · rintro text rfl
    exact ⟨rfl, hbroken⟩
  · rw [told_of_not_believes client hrefusal hnone]

/-- A document of another name is no answer, and nothing is read after it. -/
theorem ok_iff_believes_of_another_document :
    let c : Client := { patience := ⟨0⟩ }
    let called := c.call (.get "b") (utf8 "success\na\n1\nxaccepted\n1\n") false
    called.1.result
        = .error (.protocol (.unexpectedResponse (Response.document "a" "x").shown))
      ∧ called.2.callAll false [(.openSession, [], false)]
        = [({ sent := [], result := .error .disconnected }, called.2.session)] := by
  intro c called
  have hreply : c.reply? (.get "b") (utf8 "success\na\n1\nxaccepted\n1\n") false
      = some (.document "a" "x") := by decide +kernel
  have haccept : (Call.get "b").accept (.document "a" "x") = none := by decide
  have hnone : ∀ result, ¬Believes (.get "b") (.document "a" "x") result := by
    intro result hbelieves
    cases haccept.symm.trans (Call.accept_eq_some_iff.mpr hbelieves)
  obtain ⟨-, hresponse, hlater⟩ := ok_iff_believes c (.get "b") _ false
  have hresult := (hresponse _ hreply).2.2.2 rfl hnone
  refine ⟨hresult, hlater ?_ false _⟩
  rw [hresult]
  exact .protocol _

/-- A client that asks for session 5 believes whoever tells it that it holds session 7, and
one that closes session 1 believes that it is closed when it is told so of session 2. -/
theorem believes_another_session :
    let c : Client := { patience := ⟨0⟩ }
    let resumed := c.call (.resume 5) (utf8 "accepted\n7\n") false
    let closed := c.call (.close 1) (utf8 "closed\n2\n") false
    (resumed.1.result = .ok (.session 7) ∧ resumed.2.session = some 7
        ∧ resumed.2.isBroken = false)
      ∧ closed.1.result = .ok (.ended 2) ∧ closed.2.isBroken = false := by
  decide +kernel

end Client

end Moorings.Session
