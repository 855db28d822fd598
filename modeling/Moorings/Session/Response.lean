import Moorings.Session.Request

/-!
# Responses

What the session server answers. A response begins with a line that holds a
verdict, and each field follows on a line of its own:

```text
accepted    rejected    closed      success     error
<id>        <reason>    <id>                    <message>
```

A document is a `success` too, with three fields: its name, its length and its
content. So whether the word `success` stands alone cannot be seen from the
stream. Whoever reads has to know what was asked, and says so with `Expect`.

`Response.encode` writes a response, and `Response.scan` reads one.
-/

namespace Moorings.Session

open Text (utf8 ofUtf8? ofUtf8Lossy quoted)

/-- **What the session server answers.** -/
inductive Response where
  /-- The session with this id is now held. -/
  | accepted (id : UInt64)
  /-- There is no such session to be held. -/
  | rejected (reason : String)
  /-- The session with this id is over. -/
  | closed (id : UInt64)
  /-- The document that was asked for. -/
  | document (name content : String)
  /-- The document is kept. -/
  | success
  /-- The request cannot be met. -/
  | error (message : String)
  deriving DecidableEq, Repr

/-- What the word `success` will mean in the next response. -/
inductive Expect where
  /-- A document follows. -/
  | document
  /-- It stands alone. -/
  | plain
  deriving DecidableEq, Repr

/-- What a request makes its client expect. -/
def Request.expect : Request → Expect
  | .get _ => .document
  | _ => .plain

/-- The word that a response begins with. -/
inductive Verdict where
  | accepted
  | rejected
  | closed
  | success
  | error
  deriving DecidableEq, Repr

namespace Verdict

/-- Every verdict. -/
def all : List Verdict := [accepted, rejected, closed, success, error]

/-- The word for a verdict. -/
def word : Verdict → String
  | accepted => "accepted"
  | rejected => "rejected"
  | closed => "closed"
  | success => "success"
  | error => "error"

/-- The verdict that a line holds. -/
def ofLine? (line : Bytes) : Option Verdict :=
  all.find? fun verdict => utf8 verdict.word = line

@[simp] theorem ofLine?_word (verdict : Verdict) :
    ofLine? (utf8 verdict.word) = some verdict := by
  cases verdict <;> decide

end Verdict

namespace Response

/-- A response as messages show it. -/
def shown : Response → String
  | accepted id => s!"Accepted({id.toNat})"
  | rejected reason => s!"Rejected({quoted reason})"
  | closed id => s!"Closed({id.toNat})"
  | document name content =>
    s!"Document \x7b name: {quoted name}, content: {quoted content} \x7d"
  | success => "Success"
  | error message => s!"Error({quoted message})"

/-- **The bytes of a response.** -/
def encode : Response → Bytes
  | accepted id => lineOf Verdict.accepted.word ++ numberLine id.toNat
  | rejected reason => lineOf Verdict.rejected.word ++ lineOf (singleLine reason)
  | closed id => lineOf Verdict.closed.word ++ numberLine id.toNat
  | document name content =>
    lineOf Verdict.success.word ++ lineOf (singleLine name)
      ++ numberLine content.utf8ByteSize ++ utf8 content
  | success => lineOf Verdict.success.word
  | error message => lineOf Verdict.error.word ++ lineOf (singleLine message)

/-! ## Reading -/

/-- A response about the session whose id is on the next line. -/
def scanId (response : UInt64 → Response) : Scan Response := do
  let line ← Scan.line
  match readId? line with
  | some id => pure (response id)
  | none => Scan.fail (.invalidNumber .sessionId (ofUtf8Lossy line))

/-- A response whose text is on the next line. -/
def scanText (response : String → Response) : Scan Response := do
  let line ← Scan.line
  pure (response (ofUtf8Lossy line))

/-- The name, the length and the content of a document. -/
def scanDocument : Scan Response := do
  let name ← Scan.line
  let lengthLine ← Scan.line
  match readLength? lengthLine with
  | none => Scan.fail (.invalidNumber .contentLength (ofUtf8Lossy lengthLine))
  | some length =>
    match checkContent length with
    | .error cause => Scan.fail cause
    | .ok () => do
      let content ← Scan.bytes length
      match ofUtf8? content with
      | some content => pure (.document (ofUtf8Lossy name) content)
      | none => Scan.fail .invalidUtf8

/-- What follows a verdict. -/
def scanAfter (expect : Expect) : Verdict → Scan Response
  | .accepted => scanId .accepted
  | .closed => scanId .closed
  | .rejected => scanText .rejected
  | .error => scanText .error
  | .success =>
    match expect with
    | .document => scanDocument
    | .plain => pure .success

/-- **The next response of a stream.** -/
def scan (expect : Expect) : Scan Response := do
  let line ← Scan.line
  match Verdict.ofLine? line with
  | some verdict => scanAfter expect verdict
  | none => Scan.fail (.unexpectedResponse (ofUtf8Lossy line))

end Response

end Moorings.Session
