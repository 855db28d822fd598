import Moorings.Proofs.Session.History
import Mathlib.Data.UInt

/-!
# A hub agrees with its history

What a hub answers depends on its history only through what is in its directory
and what its connections hold. This module says what these have to do with the
history (`Directory.Records` and `Hub.Records`):

* ids are handed out one after another, so the next one tells how many sessions
  have been opened;
* a session is open if its id has been handed out and it was not closed;
* what is kept in an open session is what was put there last;
* whatever a connection holds has been handed out.

Each of the operations on a directory preserves the agreement, whatever happens
at a request therefore does (`Hub.Records.of_happens`), and so does a run. The
one thing that could end it is that the ids run out: the number after the
greatest is 0, and the ids would begin again.
-/

namespace Moorings.Session

/-- **A directory and a history that agree.** -/
structure Directory.Records (d : Directory) (past : List Event) : Prop where
  /-- The next id is the one after those of the sessions opened so far. -/
  nextId_eq : d.nextId.toNat = History.openings past + 1
  /-- The open sessions are those that were opened and not closed. -/
  isOpen_iff : ∀ id, d.isOpen id = true ↔ History.WasIssued past id ∧ ¬ History.WasClosed past id
  /-- What is in an open session was kept there last. -/
  get?_eq : ∀ {id : UInt64} {entry : Entry}, d.find? id = some entry →
    ∀ name, entry.get? name = History.lastKept? past id name
  wasIssued_of_wasClosed : ∀ {id : UInt64}, History.WasClosed past id → History.WasIssued past id
  wasIssued_of_lastKept? : ∀ {id : UInt64} {name content : String},
    History.lastKept? past id name = some content → History.WasIssued past id

namespace Directory.Records

open History

variable {d d' : Directory} {past : List Event} {e : Event}
variable {held : Option UInt64} {id : UInt64} {name content : String}

/-- The id that will be handed out next has not been yet. -/
theorem not_wasIssued_nextId (h : d.Records past) : ¬ WasIssued past d.nextId := by
  intro hissued
  have hle := hissued.2
  rw [h.nextId_eq] at hle
  exact Nat.not_succ_le_self _ hle

/-- Whatever is closed has been handed out, if what is closed now has been. -/
theorem wasIssued_of_wasClosed_concat (h : d.Records past)
    (hnew : e.response = .closed id → WasIssued past id) (hclosed : WasClosed (past ++ [e]) id) :
    WasIssued (past ++ [e]) id := by
  obtain hclosed | hresponse := wasClosed_concat.mp hclosed
  · exact (h.wasIssued_of_wasClosed hclosed).append [e]
  · exact (hnew hresponse).append [e]

/-- Whatever has documents has been handed out, if what is given one now has
been. -/
theorem wasIssued_of_lastKept?_concat (h : d.Records past)
    (hnew : e.kept? id name ≠ none → WasIssued past id)
    (hkept : lastKept? (past ++ [e]) id name = some content) :
    WasIssued (past ++ [e]) id := by
  rw [lastKept?_concat] at hkept
  by_cases hnone : e.kept? id name = none
  · rw [hnone, Option.none_or] at hkept
    exact (h.wasIssued_of_lastKept? hkept).append [e]
  · exact (hnew hnone).append [e]

/-- A session is opened. -/
theorem openSession (h : d.Records past) (hroom : openings past + 1 < 2 ^ 64 - 1) :
    d.openSession.2.Records (past ++ [⟨held, .openSession, .accepted id⟩]) where
  nextId_eq := by
    show (d.nextId + 1).toNat = _
    rw [UInt64.toNat_add, h.nextId_eq, openings_concat]
    exact Nat.mod_eq_of_lt (show openings past + 1 + 1 < 2 ^ 64 by omega)
  isOpen_iff other := by
    rw [wasIssued_concat_of_isOpening rfl, wasClosed_concat, isOpen, find?_openSession]
    by_cases hother : other = d.nextId
    · have hclosed : ¬ WasClosed past other := fun hclosed =>
        h.not_wasIssued_nextId (hother ▸ h.wasIssued_of_wasClosed hclosed)
      rw [if_pos hother]
      exact iff_of_true rfl ⟨.inr (hother ▸ h.nextId_eq), (·.elim hclosed Response.noConfusion)⟩
    · have hne : other.toNat ≠ openings past + 1 := fun e =>
        hother (UInt64.toNat_inj.mp (e.trans h.nextId_eq.symm))
      rw [if_neg hother, or_iff_left hne, or_iff_left Response.noConfusion]
      exact h.isOpen_iff other
  get?_eq := by
    intro other entry hentry name
    rw [find?_openSession] at hentry
    rw [lastKept?_concat]
    show _ = lastKept? past other name
    by_cases hother : other = d.nextId
    · -- nothing has been kept under an id that was not handed out
      rw [if_pos hother] at hentry
      cases hentry
      cases hkept : lastKept? past other name with
      | none => rfl
      | some content =>
        exact absurd (h.wasIssued_of_lastKept? hkept) (hother ▸ h.not_wasIssued_nextId)
    · rw [if_neg hother] at hentry
      exact h.get?_eq hentry name
  wasIssued_of_wasClosed := h.wasIssued_of_wasClosed_concat Response.noConfusion
  wasIssued_of_lastKept? := h.wasIssued_of_lastKept?_concat (absurd rfl)

/-- A session is closed. -/
theorem close (h : d.Records past) (hclose : d.close id = .ok d') :
    d'.Records (past ++ [⟨held, .close id, .closed id⟩]) where
  nextId_eq := by
    rw [nextId_of_close hclose, openings_concat]
    exact h.nextId_eq
  isOpen_iff other := by
    rw [wasIssued_concat rfl, wasClosed_concat, isOpen, find?_of_close hclose]
    by_cases hother : other = id
    · rw [if_pos hother]
      exact iff_of_false Bool.false_ne_true fun hopen => hopen.2 (.inr (hother ▸ rfl))
    · rw [if_neg hother, or_iff_left (fun e => hother (by cases e; rfl))]
      exact h.isOpen_iff other
  get?_eq := by
    intro other entry hentry name
    rw [find?_of_close hclose] at hentry
    rw [lastKept?_concat]
    split at hentry
    · cases hentry
    · exact h.get?_eq hentry name
  wasIssued_of_wasClosed := by
    -- only what is open can be closed, and only what was handed out is open
    refine h.wasIssued_of_wasClosed_concat fun e => ?_
    cases e
    exact ((h.isOpen_iff id).mp (close_eq_ok_iff.mp hclose).1).1
  wasIssued_of_lastKept? := h.wasIssued_of_lastKept?_concat (absurd rfl)

/-- A document is kept. -/
theorem put (h : d.Records past) (hput : d.put id name content = .ok d') :
    d'.Records (past ++ [⟨some id, .post name content, .success⟩]) where
  nextId_eq := by
    rw [nextId_of_put hput, openings_concat]
    exact h.nextId_eq
  isOpen_iff other := by
    rw [wasIssued_concat rfl, wasClosed_concat, or_iff_left Response.noConfusion,
      ← h.isOpen_iff other, isOpen, isOpen, find?_of_put hput]
    split
    · rw [Option.isSome_map]
    · rfl
  get?_eq := by
    intro other entry hentry name'
    rw [find?_of_put hput] at hentry
    rw [lastKept?_concat]
    show _ = (if id = other ∧ name = name' then some content else none).or _
    by_cases hother : other = id
    · -- the session that is different now: one of its names has a new content
      rw [if_pos hother] at hentry
      obtain ⟨old, hold, rfl⟩ := Option.map_eq_some_iff.mp hentry
      rw [Entry.get?_put, h.get?_eq hold]
      by_cases hname : name' = name
      · rw [if_pos hname, if_pos ⟨hother.symm, hname.symm⟩, Option.some_or]
      · rw [if_neg hname, if_neg fun e => hname e.2.symm, Option.none_or]
    · rw [if_neg hother] at hentry
      rw [if_neg fun e => hother e.1.symm, Option.none_or]
      exact h.get?_eq hentry name'
  wasIssued_of_wasClosed := h.wasIssued_of_wasClosed_concat Response.noConfusion
  wasIssued_of_lastKept? := by
    refine h.wasIssued_of_lastKept?_concat fun hkept => ?_
    obtain ⟨rfl, -⟩ := of_not_not fun hne => hkept (if_neg hne)
    exact ((h.isOpen_iff id).mp (put_eq_ok_iff.mp hput).1).1

/-- Nothing happens to the directory. -/
theorem unmoved (h : d.Records past) (hopening : e.isOpening = false)
    (hresponse : ∀ id, e.response ≠ .closed id) (hkept : ∀ id name, e.kept? id name = none) :
    d.Records (past ++ [e]) where
  nextId_eq := by
    rw [openings_concat, hopening]
    exact h.nextId_eq
  isOpen_iff other := by
    rw [wasIssued_concat hopening, wasClosed_concat, or_iff_left (hresponse other)]
    exact h.isOpen_iff other
  get?_eq := by
    intro other entry hentry name
    rw [lastKept?_concat, hkept, Option.none_or]
    exact h.get?_eq hentry name
  wasIssued_of_wasClosed := h.wasIssued_of_wasClosed_concat fun e => absurd e (hresponse _)
  wasIssued_of_lastKept? := h.wasIssued_of_lastKept?_concat fun hne => absurd (hkept _ _) hne

end Directory.Records

/-- **A hub and a history that agree**: the directory does, and whatever a
connection holds has been handed out. -/
structure Hub.Records (h : Hub) (past : List Event) : Prop where
  directory : h.directory.Records past
  wasIssued_of_held : ∀ {number : Nat} {id : UInt64},
    h.held number = some id → History.WasIssued past id

namespace Hub

open History

variable {h h' : Hub} {past : List Event}

theorem Records.after (hr : h.Records past) {number : Nat} {held : Option UInt64}
    {d : Directory} {e : Event} (hd : d.Records (past ++ [e]))
    (hheld : ∀ {id}, held = some id → WasIssued (past ++ [e]) id) :
    (h.after number held d).Records (past ++ [e]) where
  directory := hd
  wasIssued_of_held := by
    intro other _ hother
    rw [held_after] at hother
    split at hother
    · exact hheld hother
    · exact (hr.wasIssued_of_held hother).append [e]

/-- **What happens is recorded.** -/
theorem Records.of_happens (hr : h.Records past) {number : Nat} {request : Request}
    {response : Response} (hh : h.Happens number request response h')
    (hroom : openings (past ++ [⟨h.held number, request, response⟩]) < 2 ^ 64 - 1) :
    h'.Records (past ++ [⟨h.held number, request, response⟩]) := by
  cases hh with
  | opened hfree =>
    rw [openings_concat] at hroom
    refine hr.after (hr.directory.openSession hroom) fun hid => ?_
    rw [wasIssued_concat_of_isOpening rfl]
    cases hid
    exact .inr hr.directory.nextId_eq
  | resumed hfree hopen =>
    refine hr.after (hr.directory.unmoved rfl (fun _ => Response.noConfusion) fun _ _ => rfl)
      fun hid => ?_
    cases hid
    exact ((hr.directory.isOpen_iff _).mp hopen).1.append _
  | closed hclose =>
    refine hr.after (hr.directory.close hclose) fun hid => ?_
    split at hid
    · cases hid
    · exact (hr.wasIssued_of_held hid).append _
  | kept hheld hput =>
    rw [hheld]
    refine hr.after (hr.directory.put hput) fun hid => ?_
    exact (hr.wasIssued_of_held (hheld.trans hid)).append _
  | read hheld hget =>
    exact ⟨hr.directory.unmoved rfl (fun _ => Response.noConfusion) fun _ _ => rfl,
      fun hid => (hr.wasIssued_of_held hid).append _⟩
  | rejected hfree hopen =>
    exact ⟨hr.directory.unmoved rfl (fun _ => Response.noConfusion) fun _ _ => rfl,
      fun hid => (hr.wasIssued_of_held hid).append _⟩
  | refused message =>
    refine ⟨hr.directory.unmoved ?_ (fun _ => Response.noConfusion) fun _ _ => ?_,
      fun hid => (hr.wasIssued_of_held hid).append _⟩
    · cases request <;> rfl
    · cases request <;> rfl

/-- **What every request preserves, every run preserves**, as long as there are
ids to be handed out. -/
theorem run_induction {P : Hub → List Event → Prop}
    (hstep : ∀ {h : Hub} {past : List Event} {number : Nat} {request : Request},
      openings (past ++ [h.event number request]) < 2 ^ 64 - 1 → P h past →
        P (h.handle number request).2 (past ++ [h.event number request]))
    (hp : P h past) (ops : List (Nat × Request))
    (hroom : openings (past ++ h.events ops) < 2 ^ 64 - 1) :
    P (h.run ops).2 (past ++ h.events ops) := by
  induction ops generalizing h past with
  | nil =>
    show P h (past ++ [])
    rw [List.append_nil]
    exact hp
  | cons op ops ih =>
    obtain ⟨number, request⟩ := op
    -- the first event of the run becomes the last of the past
    have happend : past ++ h.events ((number, request) :: ops)
        = past ++ [h.event number request] ++ (h.handle number request).2.events ops := by
      rw [List.append_assoc]
      rfl
    rw [happend] at hroom ⊢
    have hfirst : openings (past ++ [h.event number request]) < 2 ^ 64 - 1 := by
      rw [openings_append] at hroom
      exact Nat.lt_of_le_of_lt (Nat.le_add_right _ _) hroom
    exact ih (hstep hfirst hp) hroom

/-- The requests that are handled one after another are recorded. -/
theorem Records.run (hr : h.Records past) (ops : List (Nat × Request))
    (hroom : openings (past ++ h.events ops) < 2 ^ 64 - 1) :
    (h.run ops).2.Records (past ++ h.events ops) :=
  run_induction (fun hfirst hr => hr.of_happens (happens_handle _ _ _) hfirst) hr ops hroom

/-- Nothing has happened yet. -/
theorem records_nil : ({} : Hub).Records [] where
  directory :=
    { nextId_eq := rfl
      isOpen_iff := fun _ => iff_of_false Bool.false_ne_true fun h =>
        absurd h.1.2 (Nat.not_le.mpr h.1.1)
      get?_eq := fun e => by cases e
      wasIssued_of_wasClosed := fun h => absurd h.choose_spec.1 List.not_mem_nil
      wasIssued_of_lastKept? := fun e => by cases e }
  wasIssued_of_held := fun e => by cases e

/-- **Whatever the connections ask for, the hub agrees with its history**, as
long as there are ids to be handed out. -/
theorem records_run (ops : List (Nat × Request))
    (hroom : openings (({} : Hub).events ops) < 2 ^ 64 - 1) :
    (({} : Hub).run ops).2.Records (({} : Hub).events ops) :=
  records_nil.run ops hroom

end Hub

end Moorings.Session
