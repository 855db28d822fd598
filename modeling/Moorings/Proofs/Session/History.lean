import Moorings.Session.Hub
import Moorings.Proofs.Session.Directory

/-!
# What has happened on a hub

The requests of all connections are one sequence, and with the answers to them
they are a history: a list of `Event`s, from the first to the last. `History`
has what can be read off it without knowing of any hub: how many sessions have
been opened, which of them were closed, and what was kept last in each of them
under each name.

`Hub.Happens` is the inversion of `Hub.handle`: what may happen at a request,
with the guards and the hub afterwards. What is to be said of all requests is
said by cases on it.
-/

namespace Moorings.Session

/-- **A request that has been answered**: what its connection held when it
came, and the response. -/
structure Event where
  held : Option UInt64
  request : Request
  response : Response
  deriving DecidableEq, Repr

namespace Event

/-- Whether a session was opened. -/
def isOpening (e : Event) : Bool :=
  match e.request, e.response with
  | .openSession, .accepted _ => true
  | _, _ => false

/-- What was kept in a session under a name, if this is what happened. -/
def kept? (e : Event) (id : UInt64) (name : String) : Option String :=
  match e.request, e.response, e.held with
  | .post name' content, .success, some id' =>
    if id' = id ∧ name' = name then some content else none
  | _, _, _ => none

end Event

namespace History

variable {past : List Event} {e : Event} {id : UInt64} {name : String}

/-- How many sessions have been opened. -/
def openings (past : List Event) : Nat := past.countP (·.isOpening)

/-- Whether an id has been handed out: as many have been as sessions have been
opened, from 1 on. -/
def WasIssued (past : List Event) (id : UInt64) : Prop :=
  0 < id.toNat ∧ id.toNat ≤ openings past

/-- Whether a session has been closed, by whichever connection. -/
def WasClosed (past : List Event) (id : UInt64) : Prop :=
  ∃ e ∈ past, e.response = .closed id

instance (past : List Event) (id : UInt64) : Decidable (WasClosed past id) :=
  inferInstanceAs (Decidable (∃ e ∈ past, e.response = .closed id))

/-- **The last content that was kept** in a session under a name. -/
def lastKept? (past : List Event) (id : UInt64) (name : String) : Option String :=
  (past.filterMap (·.kept? id name)).getLast?

theorem openings_append (past more : List Event) :
    openings (past ++ more) = openings past + openings more :=
  List.countP_append

theorem openings_concat (past : List Event) (e : Event) :
    openings (past ++ [e]) = openings past + if e.isOpening then 1 else 0 := by
  rw [openings_append]
  exact congrArg (openings past + ·) List.countP_singleton

theorem WasIssued.append (h : WasIssued past id) (more : List Event) :
    WasIssued (past ++ more) id := by
  refine ⟨h.1, Nat.le_trans h.2 ?_⟩
  rw [openings_append]
  exact Nat.le_add_right _ _

/-- Where no session is opened, no id is handed out. -/
theorem wasIssued_concat (h : e.isOpening = false) :
    WasIssued (past ++ [e]) id ↔ WasIssued past id := by
  unfold WasIssued
  rw [openings_concat, h]
  rfl

/-- Where a session is opened, the next id is handed out. -/
theorem wasIssued_concat_of_isOpening (h : e.isOpening = true) :
    WasIssued (past ++ [e]) id ↔ WasIssued past id ∨ id.toNat = openings past + 1 := by
  unfold WasIssued
  rw [openings_concat, if_pos h]
  omega

theorem wasClosed_append {more : List Event} :
    WasClosed (past ++ more) id ↔ WasClosed past id ∨ WasClosed more id := by
  unfold WasClosed
  simp only [List.mem_append, or_and_right, exists_or]

theorem wasClosed_concat :
    WasClosed (past ++ [e]) id ↔ WasClosed past id ∨ e.response = .closed id := by
  rw [wasClosed_append]
  show _ ∨ (∃ e' ∈ [e], e'.response = .closed id) ↔ _
  simp only [List.mem_singleton, exists_eq_left]

theorem lastKept?_append (past more : List Event) (id : UInt64) (name : String) :
    lastKept? (past ++ more) id name = (lastKept? more id name).or (lastKept? past id name) := by
  unfold lastKept?
  rw [List.filterMap_append, List.getLast?_append]

theorem lastKept?_concat (past : List Event) (e : Event) (id : UInt64) (name : String) :
    lastKept? (past ++ [e]) id name = (e.kept? id name).or (lastKept? past id name) := by
  rw [lastKept?_append]
  congr 1
  unfold lastKept?
  rw [List.filterMap_cons, List.filterMap_nil]
  cases e.kept? id name <;> rfl

/-- Where nothing has been kept, there is no last content. -/
theorem lastKept?_eq_none (h : ∀ e ∈ past, e.kept? id name = none) :
    lastKept? past id name = none := by
  unfold lastKept?
  rw [List.filterMap_eq_nil_iff.mpr h]
  rfl

end History

namespace Hub

/-! ## Runs and their events -/

/-- A request as an event. -/
def event (h : Hub) (number : Nat) (request : Request) : Event where
  held := h.held number
  request := request
  response := (h.handle number request).1.response

/-- **What happens when requests are handled one after another.** -/
def events (h : Hub) : List (Nat × Request) → List Event
  | [] => []
  | (number, request) :: rest =>
    h.event number request :: (h.handle number request).2.events rest

theorem run_cons (h : Hub) (number : Nat) (request : Request) (rest : List (Nat × Request)) :
    h.run ((number, request) :: rest)
      = ((h.handle number request).1 :: ((h.handle number request).2.run rest).1,
        ((h.handle number request).2.run rest).2) := rfl

theorem run_append (h : Hub) (ops more : List (Nat × Request)) :
    (h.run (ops ++ more)).2 = ((h.run ops).2.run more).2 := by
  induction ops generalizing h with
  | nil => rfl
  | cons op ops ih => exact ih (h.handle op.1 op.2).2

theorem events_append (h : Hub) (ops more : List (Nat × Request)) :
    h.events (ops ++ more) = h.events ops ++ (h.run ops).2.events more := by
  induction ops generalizing h with
  | nil => rfl
  | cons op ops ih => exact congrArg (h.event op.1 op.2 :: ·) (ih (h.handle op.1 op.2).2)

/-! ## What may happen -/

/-- The hub with another directory and one connection that holds something
else. -/
def after (h : Hub) (number : Nat) (held : Option UInt64) (d : Directory) : Hub where
  directory := d
  connections other := if other = number then { held } else h.connections other

theorem held_after (h : Hub) (number : Nat) (held : Option UInt64) (d : Directory)
    (other : Nat) :
    (h.after number held d).held other = if other = number then held else h.held other := by
  show (if other = number then ({ held } : Connection) else h.connections other).held = _
  split <;> rfl

theorem after_self (h : Hub) (number : Nat) : h.after number (h.held number) h.directory = h := by
  obtain ⟨d, connections⟩ := h
  unfold after held
  congr 1
  funext other
  dsimp only
  by_cases hother : other = number
  · rw [if_pos hother, hother]
  · rw [if_neg hother]

/-- **What may happen at a request**, with the response and the hub after it. -/
inductive Happens (h : Hub) (number : Nat) : Request → Response → Hub → Prop
  /-- A session is opened by a connection that holds none. -/
  | opened (hfree : h.held number = none) :
    Happens h number .openSession (.accepted h.directory.nextId)
      (h.after number (some h.directory.nextId) h.directory.openSession.2)
  /-- An open session is taken up by a connection that holds none. -/
  | resumed {id : UInt64} (hfree : h.held number = none) (hopen : h.directory.isOpen id = true) :
    Happens h number (.resume id) (.accepted id) (h.after number (some id) h.directory)
  /-- An open session is closed. -/
  | closed {id : UInt64} {d : Directory} (hclose : h.directory.close id = .ok d) :
    Happens h number (.close id) (.closed id)
      (h.after number (if h.held number = some id then none else h.held number) d)
  /-- A document is kept in the session that is held. -/
  | kept {id : UInt64} {name content : String} {d : Directory} (hheld : h.held number = some id)
      (hput : h.directory.put id name content = .ok d) :
    Happens h number (.post name content) .success (h.after number (some id) d)
  /-- A document of the session that is held is read. -/
  | read {id : UInt64} {name content : String} (hheld : h.held number = some id)
      (hget : h.directory.get id name = .ok content) :
    Happens h number (.get name) (.document name content) h
  /-- A session that is not open is not taken up. -/
  | rejected {id : UInt64} (hfree : h.held number = none)
      (hopen : h.directory.isOpen id = false) :
    Happens h number (.resume id) (.rejected unableToResume) h
  /-- A request is refused. -/
  | refused (request : Request) (message : String) :
    Happens h number request (.error message) h

variable {h : Hub} {number : Nat} {held : Option UInt64}

/-- A refusal leaves the hub as it is. -/
theorem Happens.refused_after (hheld : h.held number = held) (request : Request)
    (message : String) :
    h.Happens number request (.error message) (h.after number held h.directory) := by
  rw [← hheld, after_self]
  exact .refused request message

theorem happens_openSession (hheld : h.held number = held) :
    let handled := Connection.openSession { held } h.directory
    h.Happens number .openSession handled.1.response
      (h.after number handled.2.1.held handled.2.2) := by
  cases held with
  | none => exact .opened hheld
  | some id => exact .refused_after hheld _ _

theorem happens_resume (hheld : h.held number = held) (id : UInt64) :
    let handled := Connection.resume { held } h.directory id
    h.Happens number (.resume id) handled.1.response
      (h.after number handled.2.held h.directory) := by
  cases held with
  | none =>
    unfold Connection.resume
    dsimp only
    cases hopen : h.directory.isOpen id with
    | true => exact .resumed hheld hopen
    | false =>
      show h.Happens number _ _ (h.after number none h.directory)
      rw [← hheld, after_self]
      exact .rejected hheld hopen
  | some held => exact .refused_after hheld _ _

theorem happens_close (hheld : h.held number = held) (id : UInt64) :
    let handled := Connection.close { held } h.directory id
    h.Happens number (.close id) handled.1.response
      (h.after number handled.2.1.held handled.2.2) := by
  unfold Connection.close
  cases hclose : h.directory.close id with
  | ok d =>
    show h.Happens number _ _ (h.after number (ite _ _ _ : Connection).held d)
    rw [apply_ite Connection.held, ← hheld]
    exact .closed hclose
  | error error => exact .refused_after hheld _ _

theorem happens_get (hheld : h.held number = held) (name : String) :
    h.Happens number (.get name) (Connection.get { held } h.directory name).response
      (h.after number held h.directory) := by
  unfold Connection.get
  cases held with
  | none => exact .refused_after hheld _ _
  | some id =>
    dsimp only
    cases hget : h.directory.get id name with
    | ok content =>
      rw [← hheld, after_self]
      exact .read hheld hget
    | error error => exact .refused_after hheld _ _

theorem happens_post (hheld : h.held number = held) (name content : String) :
    let handled := Connection.post { held } h.directory name content
    h.Happens number (.post name content) handled.1.response
      (h.after number held handled.2) := by
  unfold Connection.post
  cases held with
  | none => exact .refused_after hheld _ _
  | some id =>
    dsimp only
    cases hput : h.directory.put id name content with
    | ok d => exact .kept hheld hput
    | error error => exact .refused_after hheld _ _

/-- **Nothing else happens.** -/
theorem happens_handle (h : Hub) (number : Nat) (request : Request) :
    h.Happens number request (h.handle number request).1.response
      (h.handle number request).2 := by
  cases request with
  | openSession => exact happens_openSession rfl
  | resume id => exact happens_resume rfl id
  | close id => exact happens_close rfl id
  | get name => exact happens_get rfl name
  | post name content => exact happens_post rfl name content
  | invalid line => exact .refused_after rfl _ _

end Hub

end Moorings.Session
