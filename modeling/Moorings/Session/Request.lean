import Moorings.Session.Scan

/-!
# Requests

What a client of the session server can ask for. A request begins with a line
that holds a verb, and each field follows on a line of its own:

```text
open        resume      close       get         post
            <id>        <id>        <name>      <name>
                                                <length>
                                                <content>
```

`Request.encode` writes a request, and `Request.scan` reads one. Whatever is
legible as lines is read as a request: when a field is not what the verb asks
for, or there is no such verb, as an `invalid` one. Reading fails only where a
limit is broken.
-/

namespace Moorings.Session

open Text (utf8 ofUtf8? ofUtf8Lossy)

/-- A text as one line, with a space for each line break in it. -/
def singleLine (text : String) : String :=
  String.ofList (text.toList.map fun c => if c = '\r' || c = '\n' then ' ' else c)

/-- The bytes of a line. -/
def lineOf (text : String) : Bytes := utf8 text ++ [lineFeed]

/-- The bytes of a line that holds a number. -/
def numberLine (n : Nat) : Bytes := lineOf (toString n)

/-- The session id on a line. -/
def readId? (line : Bytes) : Option UInt64 :=
  (ofUtf8? line).bind Text.Decimal.readUInt64?

/-- The content length on a line. -/
def readLength? (line : Bytes) : Option Nat :=
  (ofUtf8? line).bind (Text.Decimal.read? (UInt64.size - 1))

/-- Whether a document of this length may be sent at all. -/
def checkContent (length : Nat) : Except ProtocolError Unit :=
  if maxContent < length then .error (.tooLarge length maxContent) else .ok ()

/-- **What a client asks of the session server.** -/
inductive Request where
  /-- A new session. -/
  | openSession
  /-- The session with this id once more. -/
  | resume (id : UInt64)
  /-- The session with this id ended for good. -/
  | close (id : UInt64)
  /-- The document of this name. -/
  | get (name : String)
  /-- This content kept as the document of this name. -/
  | post (name content : String)
  /-- Something that is no request, of which this is a part. -/
  | invalid (line : String)
  deriving DecidableEq, Repr

/-- The word that a request begins with. -/
inductive Verb where
  | openSession
  | resume
  | close
  | get
  | post
  deriving DecidableEq, Repr

namespace Verb

/-- Every verb. -/
def all : List Verb := [openSession, resume, close, get, post]

/-- The word for a verb. -/
def word : Verb → String
  | openSession => "open"
  | resume => "resume"
  | close => "close"
  | get => "get"
  | post => "post"

/-- The verb that a line holds. -/
def ofLine? (line : Bytes) : Option Verb := all.find? fun verb => utf8 verb.word = line

@[simp] theorem ofLine?_word (verb : Verb) : ofLine? (utf8 verb.word) = some verb := by
  cases verb <;> decide

end Verb

namespace Request

/-! ## Writing -/

/-- Whether a document name can travel as one line. -/
def checkName (name : String) : Except ProtocolError Unit :=
  if name.toList.contains '\n' then .error (.malformed (.newlineInDocumentName name))
  else .ok ()

/-- **The bytes of a request**, if it can be made at all. -/
def encode : Request → Except ProtocolError Bytes
  | openSession => .ok (lineOf Verb.openSession.word)
  | resume id => .ok (lineOf Verb.resume.word ++ numberLine id.toNat)
  | close id => .ok (lineOf Verb.close.word ++ numberLine id.toNat)
  | get name => do
    checkName name
    pure (lineOf Verb.get.word ++ lineOf name)
  | post name content => do
    checkName name
    checkContent content.utf8ByteSize
    pure (lineOf Verb.post.word ++ lineOf name ++ numberLine content.utf8ByteSize
      ++ utf8 content)
  | invalid line => .ok (lineOf (singleLine line))

/-! ## Reading -/

/-- A request about the session whose id is on the next line. -/
def scanId (verb : Verb) (request : UInt64 → Request) : Scan Request := do
  let line ← Scan.line
  match readId? line with
  | some id => pure (request id)
  | none => pure (.invalid s!"{verb.word} {ofUtf8Lossy line}")

/-- The name on the next line, and the document. -/
def scanGet : Scan Request := do
  let line ← Scan.line
  match ofUtf8? line with
  | some name => pure (.get name)
  | none => pure (.invalid s!"get {ofUtf8Lossy line}")

/-- The name, the length and the content of a document. -/
def scanPost : Scan Request := do
  let name ← Scan.line
  let lengthLine ← Scan.line
  match readLength? lengthLine with
  | none => pure (.invalid s!"post {ofUtf8Lossy name} {ofUtf8Lossy lengthLine}")
  | some length =>
    match checkContent length with
    | .error error => Scan.fail error
    | .ok () => do
      let content ← Scan.bytes length
      match ofUtf8? name, ofUtf8? content with
      | some name, some content => pure (.post name content)
      | _, _ => pure (.invalid s!"post {ofUtf8Lossy name}")

/-- What follows a verb. -/
def scanAfter : Verb → Scan Request
  | .openSession => pure .openSession
  | .resume => scanId .resume .resume
  | .close => scanId .close .close
  | .get => scanGet
  | .post => scanPost

/-- **The next request of a stream.** -/
def scan : Scan Request := do
  let line ← Scan.line
  match Verb.ofLine? line with
  | some verb => scanAfter verb
  | none => pure (.invalid (ofUtf8Lossy line))

theorem keeps_scanId (verb : Verb) (request : UInt64 → Request) :
    (scanId verb request).Keeps := by
  refine Scan.consumes_line.keeps.bind fun line => ?_
  split <;> exact Scan.keeps_pure _

theorem keeps_scanGet : scanGet.Keeps := by
  refine Scan.consumes_line.keeps.bind fun line => ?_
  split <;> exact Scan.keeps_pure _

theorem keeps_scanPost : scanPost.Keeps := by
  refine Scan.consumes_line.keeps.bind fun name => ?_
  refine Scan.consumes_line.keeps.bind fun line => ?_
  split
  · exact Scan.keeps_pure _
  · split
    · exact Scan.keeps_fail _
    · refine (Scan.keeps_bytes _).bind fun content => ?_
      split <;> exact Scan.keeps_pure _

/-- A request takes its first line at least. -/
theorem consumes_scan : scan.Consumes := by
  refine Scan.consumes_line.bind fun line => ?_
  split
  · rename_i verb _
    cases verb
    · exact Scan.keeps_pure _
    · exact keeps_scanId _ _
    · exact keeps_scanId _ _
    · exact keeps_scanGet
    · exact keeps_scanPost
  · exact Scan.keeps_pure _

/-- Everything that a buffer holds of requests. -/
def drain (buffer : Bytes) : Batch Request := scan.drain consumes_scan buffer

/-- Everything that the last buffer of a stream holds of requests. -/
def drainAtEnd (buffer : Bytes) : Batch Request := scan.atEnd.drain consumes_scan.atEnd buffer

end Request

end Moorings.Session
