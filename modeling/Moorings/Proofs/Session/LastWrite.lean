import Moorings.Proofs.Session.Records

/-!
# Documents are last-write-wins registers

Any number of connections may hold one session, keep documents in it, close it,
and go on holding it after another has closed it. What one of them reads under
a name is nevertheless told by the history alone: the last content that was
kept there by whichever connection, unless the session has been closed
(`Hub.reads_last_kept`).

`History.reading` is the answer as the history gives it. That it is the answer
of the hub is a consequence of the agreement between the two, and what remains
is to tell the four kinds of answers apart: three of them are errors, which
differ in nothing but their messages.
-/

namespace Moorings.Session

/-! ## Telling the answers apart -/

namespace DirectoryError

variable {id id' : UInt64}

/-- A number can be told from the way it is written. -/
theorem eq_of_repr_toNat_eq (h : id.toNat.repr = id'.toNat.repr) : id = id' := by
  have hread := congrArg Text.Decimal.readUInt64? h
  have hid : Text.Decimal.readUInt64? id.toNat.repr = some id :=
    Text.Decimal.readUInt64?_toString id
  rw [hid] at hread
  exact Option.some.inj (hread.trans (Text.Decimal.readUInt64?_toString id'))

theorem notOpen_of_message_eq (h : (notOpen id).message = (notOpen id').message) : id = id' := by
  unfold message at h
  simp only [String.append_left_inj, String.append_right_inj] at h
  exact eq_of_repr_toNat_eq h

theorem noDocument_of_message_eq {name : String}
    (h : (noDocument id name).message = (noDocument id' name).message) : id = id' := by
  unfold message at h
  simp only [String.append_right_inj] at h
  exact eq_of_repr_toNat_eq h

/-- Every message begins with what it is about. -/
theorem head?_message_notOpen (id : UInt64) :
    (notOpen id).message.toList.head? = some 'S' := by
  unfold message
  rw [String.toList_append, String.toList_append]
  rfl

theorem head?_message_noDocument (id : UInt64) (name : String) :
    (noDocument id name).message.toList.head? = some 'D' := by
  unfold message
  rw [String.toList_append, String.toList_append, String.toList_append]
  rfl

theorem message_notOpen_ne_noDocument (id id' : UInt64) (name : String) :
    (notOpen id).message ≠ (noDocument id' name).message := by
  intro h
  have hhead := head?_message_notOpen id
  rw [h, head?_message_noDocument] at hhead
  cases hhead

theorem message_notOpen_ne_noSessionOpen (id : UInt64) : (notOpen id).message ≠ noSessionOpen := by
  intro h
  have hhead := head?_message_notOpen id
  rw [h] at hhead
  cases hhead

theorem message_noDocument_ne_noSessionOpen (id : UInt64) (name : String) :
    (noDocument id name).message ≠ noSessionOpen := by
  intro h
  have hhead := head?_message_noDocument id name
  rw [h] at hhead
  cases hhead

end DirectoryError

/-! ## The answer that the history gives -/

namespace History

open DirectoryError

variable {past : List Event} {held : Option UInt64} {id : UInt64} {name : String}

/-- **What a connection that holds a session reads** under a name. -/
def reading (past : List Event) (held : Option UInt64) (name : String) : Response :=
  match held with
  | none => .error noSessionOpen
  | some id =>
    if WasClosed past id then .error (notOpen id).message
    else
      match lastKept? past id name with
      | some content => .document name content
      | none => .error (noDocument id name).message

theorem reading_of_wasClosed (h : WasClosed past id) (name : String) :
    reading past (some id) name = .error (notOpen id).message := if_pos h

theorem reading_of_lastKept? (h : ¬ WasClosed past id) {content : String}
    (hkept : lastKept? past id name = some content) :
    reading past (some id) name = .document name content := by
  unfold reading
  dsimp only
  rw [if_neg h, hkept]

theorem reading_of_lastKept?_eq_none (h : ¬ WasClosed past id)
    (hkept : lastKept? past id name = none) :
    reading past (some id) name = .error (noDocument id name).message := by
  unfold reading
  dsimp only
  rw [if_neg h, hkept]

/-- The four cases of a reading, each with its answer. -/
theorem reading_cases (past : List Event) (held : Option UInt64) (name : String) :
    (held = none ∧ reading past held name = .error noSessionOpen)
      ∨ ∃ id, held = some id
        ∧ ((WasClosed past id ∧ reading past held name = .error (notOpen id).message)
          ∨ (¬ WasClosed past id
            ∧ ((∃ content, lastKept? past id name = some content
                ∧ reading past held name = .document name content)
              ∨ (lastKept? past id name = none
                ∧ reading past held name = .error (noDocument id name).message)))) := by
  cases held with
  | none => exact .inl ⟨rfl, rfl⟩
  | some id =>
    refine .inr ⟨id, rfl, ?_⟩
    by_cases hclosed : WasClosed past id
    · exact .inl ⟨hclosed, reading_of_wasClosed hclosed name⟩
    · refine .inr ⟨hclosed, ?_⟩
      cases hkept : lastKept? past id name with
      | some content => exact .inl ⟨content, rfl, reading_of_lastKept? hclosed hkept⟩
      | none => exact .inr ⟨rfl, reading_of_lastKept?_eq_none hclosed hkept⟩

theorem reading_eq_noSessionOpen_iff :
    reading past held name = .error noSessionOpen ↔ held = none := by
  constructor
  · intro h
    obtain ⟨hheld, -⟩ | ⟨id, -, ⟨-, e⟩ | ⟨-, ⟨content, -, e⟩ | ⟨-, e⟩⟩⟩ :=
      reading_cases past held name
    · exact hheld
    · exact absurd (Response.error.inj (e.symm.trans h)) (message_notOpen_ne_noSessionOpen id)
    · cases e.symm.trans h
    · exact absurd (Response.error.inj (e.symm.trans h))
        (message_noDocument_ne_noSessionOpen id name)
  · rintro rfl
    rfl

theorem reading_eq_document_iff {name' content : String} :
    reading past held name = .document name' content
      ↔ name' = name ∧ ∃ id, held = some id ∧ ¬ WasClosed past id
        ∧ lastKept? past id name = some content := by
  constructor
  · intro h
    obtain ⟨-, e⟩ | ⟨id, hheld, ⟨-, e⟩ | ⟨hclosed, ⟨content', hkept, e⟩ | ⟨-, e⟩⟩⟩ :=
      reading_cases past held name
    · cases e.symm.trans h
    · cases e.symm.trans h
    · cases e.symm.trans h
      exact ⟨rfl, id, hheld, hclosed, hkept⟩
    · cases e.symm.trans h
  · rintro ⟨rfl, id, rfl, hclosed, hkept⟩
    exact reading_of_lastKept? hclosed hkept

theorem reading_eq_noDocument_iff :
    reading past held name = .error (noDocument id name).message
      ↔ held = some id ∧ ¬ WasClosed past id ∧ lastKept? past id name = none := by
  constructor
  · intro h
    obtain ⟨-, e⟩ | ⟨id', hheld, ⟨-, e⟩ | ⟨hclosed, ⟨content, -, e⟩ | ⟨hkept, e⟩⟩⟩ :=
      reading_cases past held name
    · exact absurd (Response.error.inj (h.symm.trans e))
        (message_noDocument_ne_noSessionOpen id name)
    · exact absurd (Response.error.inj (e.symm.trans h)) (message_notOpen_ne_noDocument id' id name)
    · cases e.symm.trans h
    · cases noDocument_of_message_eq (Response.error.inj (h.symm.trans e))
      exact ⟨hheld, hclosed, hkept⟩
  · rintro ⟨rfl, hclosed, hkept⟩
    exact reading_of_lastKept?_eq_none hclosed hkept

theorem reading_eq_notOpen_iff :
    reading past held name = .error (notOpen id).message
      ↔ held = some id ∧ WasClosed past id := by
  constructor
  · intro h
    obtain ⟨-, e⟩ | ⟨id', hheld, ⟨hclosed, e⟩ | ⟨-, ⟨content, -, e⟩ | ⟨-, e⟩⟩⟩ :=
      reading_cases past held name
    · exact absurd (Response.error.inj (h.symm.trans e)) (message_notOpen_ne_noSessionOpen id)
    · cases notOpen_of_message_eq (Response.error.inj (h.symm.trans e))
      exact ⟨hheld, hclosed⟩
    · cases e.symm.trans h
    · exact absurd (Response.error.inj (h.symm.trans e)) (message_notOpen_ne_noDocument id id' name)
  · rintro ⟨rfl, hclosed⟩
    exact reading_of_wasClosed hclosed name

/-- **What does not concern a document does not change what is read**: neither
a close of its session nor something kept under its name. -/
theorem reading_append {more : List Event}
    (h : ∀ e ∈ more, e.response ≠ .closed id ∧ e.kept? id name = none) :
    reading (past ++ more) (some id) name = reading past (some id) name := by
  have hclosed : WasClosed (past ++ more) id ↔ WasClosed past id := by
    rw [wasClosed_append]
    refine or_iff_left ?_
    rintro ⟨e, hmem, hresponse⟩
    exact (h e hmem).1 hresponse
  have hkept : lastKept? (past ++ more) id name = lastKept? past id name := by
    rw [lastKept?_append, lastKept?_eq_none fun e hmem => (h e hmem).2, Option.none_or]
  unfold reading
  simp only [hclosed, hkept]

end History

namespace Hub

open History

/-- **The hub reads what the history gives.** -/
theorem Records.response_get {h : Hub} {past : List Event} (hr : h.Records past) (number : Nat)
    (name : String) :
    (h.handle number (.get name)).1.response = reading past (h.held number) name := by
  show (Connection.get { held := h.held number } h.directory name).response = _
  unfold Connection.get
  cases hheld : h.held number with
  | none => rfl
  | some id =>
    have hopen := hr.directory.isOpen_iff id
    rw [and_iff_right (hr.wasIssued_of_held hheld)] at hopen
    dsimp only
    cases hfound : h.directory.find? id with
    | none =>
      -- it is not open although it was handed out, so it has been closed
      rw [Directory.isOpen, hfound] at hopen
      have hclosed : WasClosed past id := of_not_not fun hnot =>
        Bool.false_ne_true (hopen.mpr hnot)
      rw [Directory.get_of_find?_eq_none hfound, reading_of_wasClosed hclosed]
    | some entry =>
      rw [Directory.isOpen, hfound] at hopen
      have hclosed : ¬ WasClosed past id := hopen.mp rfl
      have hget := hr.directory.get?_eq hfound name
      cases hkept : lastKept? past id name with
      | none =>
        rw [Directory.get_of_get?_eq_none hfound (hget.trans hkept),
          reading_of_lastKept?_eq_none hclosed hkept]
      | some content =>
        rw [Directory.get_of_get? hfound (hget.trans hkept), reading_of_lastKept? hclosed hkept]

/-- **Documents are last-write-wins registers**, whichever requests any number
of connections have made in whichever order. A connection that asks for a
document is told that it holds no session exactly if it holds none; it is given
a content exactly if its session has not been closed and this is what was kept
there last under this very name; it is told that there is no such document
exactly if nothing was; and it is told that the session is not open exactly if
some connection has closed it. What happens in other sessions or under other
names, what is refused, and which connection asks make no difference. -/
theorem reads_last_kept (ops : List (Nat × Request))
    (hroom : openings (({} : Hub).events ops) < 2 ^ 64 - 1) (number : Nat) (name : String) :
    let past := ({} : Hub).events ops
    let h := (({} : Hub).run ops).2
    let answer := (h.handle number (.get name)).1.response
    (answer = .error noSessionOpen ↔ h.held number = none)
      ∧ (∀ name' content, answer = .document name' content
        ↔ name' = name ∧ ∃ id, h.held number = some id ∧ ¬ WasClosed past id
          ∧ lastKept? past id name = some content)
      ∧ (∀ id, answer = .error (DirectoryError.noDocument id name).message
        ↔ h.held number = some id ∧ ¬ WasClosed past id ∧ lastKept? past id name = none)
      ∧ (∀ id, answer = .error (DirectoryError.notOpen id).message
        ↔ h.held number = some id ∧ WasClosed past id)
      ∧ (∀ id, h.held number = some id → (h.directory.isOpen id = true ↔ ¬ WasClosed past id))
      ∧ ∀ (more : List (Nat × Request)) (number' : Nat) (id : UInt64),
        openings (({} : Hub).events (ops ++ more)) < 2 ^ 64 - 1 →
        (∀ e ∈ h.events more, e.response ≠ .closed id ∧ e.kept? id name = none) →
        h.held number = some id → (h.run more).2.held number' = some id →
        ((h.run more).2.handle number' (.get name)).1.response = answer := by
  intro past h answer
  have hr : h.Records past := records_run ops hroom
  have hanswer : answer = reading past (h.held number) name := hr.response_get number name
  refine ⟨?_, fun name' content => ?_, fun id => ?_, fun id => ?_, fun id hheld => ?_,
    fun more number' id hroom' hmore hheld hheld' => ?_⟩
  · rw [hanswer, reading_eq_noSessionOpen_iff]
  · rw [hanswer, reading_eq_document_iff]
  · rw [hanswer, reading_eq_noDocument_iff]
  · rw [hanswer, reading_eq_notOpen_iff]
  · rw [hr.directory.isOpen_iff, and_iff_right (hr.wasIssued_of_held hheld)]
  · rw [events_append] at hroom'
    have hr' : (h.run more).2.Records (past ++ h.events more) := hr.run more hroom'
    rw [hr'.response_get, hheld', hanswer, hheld, reading_append hmore]

/-- Two connections hold session 1, and a third has one of its own. The first
reads what the second has kept, and so does a fourth after it has taken up the
session and kept something else. -/
theorem reads_last_kept_of_others :
    let ops : List (Nat × Request) :=
      [(0, .openSession), (0, .post "a" "x"), (1, .resume 1), (1, .post "a" "y"),
        (2, .openSession), (2, .post "a" "z")]
    let more : List (Nat × Request) := [(3, .resume 1), (3, .post "b" "x")]
    let h := (({} : Hub).run ops).2
    (h.handle 0 (.get "a")).1.response = .document "a" "y"
      ∧ ((h.run more).2.handle 3 (.get "a")).1.response = .document "a" "y" := by
  intro ops more h
  obtain ⟨-, hdocument, -, -, -, hmore⟩ := reads_last_kept ops (by decide) 0 "a"
  have hread := (hdocument "a" "y").mpr ⟨rfl, 1, by decide, by decide, by decide⟩
  exact ⟨hread, (hmore more 3 1 (by decide) (by decide) rfl rfl).trans hread⟩

end Hub

end Moorings.Session
