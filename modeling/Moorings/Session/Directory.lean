import Moorings.Text.Quoted

/-!
# The directory of sessions

A session is a set of documents, each a content under a name. The directory
has the open sessions, in the order in which they were opened, and hands out
their ids: 1 for the first, and for every later one the next number. A session
that is closed is gone with its documents, and its id is not handed out again.

`Directory.stats` counts what there is. The session that has been open for the
longest is the first in the directory.
-/

namespace Moorings.Session

/-- A content under a name. -/
structure Document where
  name : String
  content : String
  deriving DecidableEq, Repr

/-- An open session. -/
structure Entry where
  /-- Its id. -/
  id : UInt64
  /-- Its documents, no two of the same name. -/
  documents : List Document
  deriving DecidableEq, Repr

namespace Entry

/-- The content under a name. -/
def get? (e : Entry) (name : String) : Option String :=
  (e.documents.find? (·.name = name)).map (·.content)

/-- A content put under a name, in place of the one that is there. -/
def put (e : Entry) (name content : String) : Entry :=
  { e with documents := e.documents.filter (·.name ≠ name) ++ [{ name, content }] }

end Entry

/-- Why a document or a session is not to be had. -/
inductive DirectoryError where
  /-- No session with this id is open. -/
  | notOpen (id : UInt64)
  /-- The session has no document of this name. -/
  | noDocument (id : UInt64) (name : String)
  deriving DecidableEq, Repr

/-- The reason in words. -/
def DirectoryError.message : DirectoryError → String
  | notOpen id => s!"Session {id.toNat} is not open"
  | noDocument id name => s!"Document {Text.quoted name} not found in session {id.toNat}"

/-- **The open sessions**, and the id that the next one will have. -/
structure Directory where
  nextId : UInt64 := 1
  entries : List Entry := []
  deriving DecidableEq, Repr

/-- What there is in a directory, in numbers. -/
structure Stats where
  /-- How many sessions are open. -/
  opened : Nat
  /-- How many ids have been handed out. -/
  issued : UInt64
  /-- How many documents there are in all sessions. -/
  documents : Nat
  /-- The id of the session that has been open for the longest. -/
  oldest : Option UInt64
  deriving DecidableEq, Repr

namespace Directory

/-- The open session with this id. -/
def find? (d : Directory) (id : UInt64) : Option Entry := d.entries.find? (·.id = id)

/-- Whether a session with this id is open. -/
def isOpen (d : Directory) (id : UInt64) : Bool := (d.find? id).isSome

/-- **A new session without documents**, and its id. -/
def openSession (d : Directory) : UInt64 × Directory :=
  (d.nextId,
    { nextId := d.nextId + 1
      entries := d.entries.filter (·.id ≠ d.nextId) ++ [{ id := d.nextId, documents := [] }] })

/-- A session closed. -/
def close (d : Directory) (id : UInt64) : Except DirectoryError Directory :=
  if d.isOpen id then .ok { d with entries := d.entries.filter (·.id ≠ id) }
  else .error (.notOpen id)

/-- The content of a document. -/
def get (d : Directory) (id : UInt64) (name : String) : Except DirectoryError String :=
  match d.find? id with
  | none => .error (.notOpen id)
  | some entry =>
    match entry.get? name with
    | some content => .ok content
    | none => .error (.noDocument id name)

/-- A content kept as a document. -/
def put (d : Directory) (id : UInt64) (name content : String) :
    Except DirectoryError Directory :=
  if d.isOpen id then
    .ok { d with entries := d.entries.map fun e => if e.id = id then e.put name content else e }
  else .error (.notOpen id)

/-- What there is, in numbers. -/
def stats (d : Directory) : Stats where
  opened := d.entries.length
  issued := d.nextId - 1
  documents := (d.entries.flatMap (·.documents)).length
  oldest := d.entries.head?.map (·.id)

end Directory

end Moorings.Session
