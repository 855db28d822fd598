import Moorings.Session.Directory

/-!
# A directory is a map of maps

The sessions of a directory are a list, and so are the documents of a session.
Both are read by the first entry with a key, an id or a name, and changed by
leaving out the entries with a key and putting one at the end. This module says
what `Directory.find?` and `Entry.get?` give after each of the operations, so
that nothing else has to know of the lists.
-/

namespace Moorings.Session

section Keyed

variable {α κ : Type} [DecidableEq κ] (key : α → κ)

/-- **Entries left out by their key** are not found, and all others are. -/
theorem find?_filter_key (entries : List α) (k k' : κ) :
    (entries.filter (key · ≠ k)).find? (key · = k')
      = if k' = k then none else entries.find? (key · = k') := by
  rw [List.find?_filter]
  by_cases hk : k' = k
  · rw [if_pos hk, List.find?_eq_none]
    intro a _ h
    obtain ⟨hne, heq⟩ := of_decide_eq_true h
    exact of_decide_eq_true hne ((of_decide_eq_true heq).trans hk)
  · rw [if_neg hk]
    congr 1
    funext a
    rw [decide_eq_decide]
    refine ⟨fun h => of_decide_eq_true h.2, fun ha => ⟨?_, decide_eq_true ha⟩⟩
    exact decide_eq_true fun h => hk (ha.symm.trans h)

/-- **An entry put in the place of those with its key** is the one that is found
under it. -/
theorem find?_replace_key (entries : List α) (a : α) (k' : κ) :
    (entries.filter (key · ≠ key a) ++ [a]).find? (key · = k')
      = if k' = key a then some a else entries.find? (key · = k') := by
  rw [List.find?_append, find?_filter_key]
  by_cases hk : k' = key a
  · rw [if_pos hk, if_pos hk, Option.none_or]
    exact List.find?_cons_of_pos (decide_eq_true hk.symm)
  · rw [if_neg hk, if_neg hk, List.find?_cons_of_neg (by simpa using fun h => hk h.symm),
      List.find?_nil, Option.or_none]

end Keyed

namespace Entry

/-- **What is kept under a name** is what was put there last. -/
theorem get?_put (e : Entry) (name content other : String) :
    (e.put name content).get? other = if other = name then some content else e.get? other := by
  unfold get? put
  rw [find?_replace_key Document.name e.documents { name, content } other]
  split <;> rfl

/-- Where a document is kept in the entry with an id, no id changes. -/
theorem id_ite_put (e : Entry) (id : UInt64) (name content : String) :
    (if e.id = id then e.put name content else e).id = e.id := by
  split <;> rfl

end Entry

namespace Directory

variable {d d' : Directory} {id : UInt64}

/-- What is found under an id has this id. -/
theorem id_of_find? {entry : Entry} (h : d.find? id = some entry) : entry.id = id := by
  have hid := List.find?_some h
  exact of_decide_eq_true hid

/-- Nothing is found under the id of a session that is not open. -/
theorem find?_of_isOpen_eq_false (h : d.isOpen id = false) : d.find? id = none :=
  Option.not_isSome_iff_eq_none.mp (Bool.eq_false_iff.mp h)

/-! ## Opening -/

theorem find?_openSession (d : Directory) (id : UInt64) :
    d.openSession.2.find? id
      = if id = d.nextId then some { id := d.nextId, documents := [] } else d.find? id :=
  find?_replace_key Entry.id d.entries { id := d.nextId, documents := [] } id

/-! ## Closing -/

/-- **A session can be closed if it is open**, and the directory is without it
then. -/
theorem close_eq_ok_iff :
    d.close id = .ok d'
      ↔ d.isOpen id = true ∧ { d with entries := d.entries.filter (·.id ≠ id) } = d' := by
  unfold close
  split
  · rename_i hopen
    rw [Except.ok.injEq]
    exact (and_iff_right hopen).symm
  · rename_i hopen
    exact ⟨(fun e => by cases e), fun h => absurd h.1 hopen⟩

theorem nextId_of_close (h : d.close id = .ok d') : d'.nextId = d.nextId := by
  obtain ⟨-, rfl⟩ := close_eq_ok_iff.mp h
  rfl

theorem find?_of_close (h : d.close id = .ok d') (other : UInt64) :
    d'.find? other = if other = id then none else d.find? other := by
  obtain ⟨-, rfl⟩ := close_eq_ok_iff.mp h
  exact find?_filter_key Entry.id d.entries id other

/-! ## Keeping documents -/

/-- **A document can be kept if the session is open**, and only this session is
different then. -/
theorem put_eq_ok_iff {name content : String} :
    d.put id name content = .ok d'
      ↔ d.isOpen id = true
        ∧ { d with
            entries := d.entries.map fun e => if e.id = id then e.put name content else e }
          = d' := by
  unfold put
  split
  · rename_i hopen
    rw [Except.ok.injEq]
    exact (and_iff_right hopen).symm
  · rename_i hopen
    exact ⟨(fun e => by cases e), fun h => absurd h.1 hopen⟩

theorem nextId_of_put {name content : String} (h : d.put id name content = .ok d') :
    d'.nextId = d.nextId := by
  obtain ⟨-, rfl⟩ := put_eq_ok_iff.mp h
  rfl

theorem find?_of_put {name content : String} (h : d.put id name content = .ok d')
    (other : UInt64) :
    d'.find? other
      = if other = id then (d.find? other).map (·.put name content) else d.find? other := by
  obtain ⟨-, rfl⟩ := put_eq_ok_iff.mp h
  -- the ids are the same, so the same entry is found
  have hid : (fun e : Entry => decide (e.id = other))
      ∘ (fun e : Entry => if e.id = id then e.put name content else e)
      = fun e : Entry => decide (e.id = other) := by
    funext e
    show decide ((if e.id = id then e.put name content else e).id = other) = _
    rw [Entry.id_ite_put]
  have hmap : ({ d with entries := d.entries.map fun e =>
      if e.id = id then e.put name content else e } : Directory).find? other
      = (d.find? other).map fun e => if e.id = id then e.put name content else e := by
    unfold find?
    rw [List.find?_map, hid]
  rw [hmap]
  cases hfound : d.find? other with
  | none => split <;> rfl
  | some entry =>
    rw [Option.map_some, Option.map_some, id_of_find? hfound]
    split <;> rfl

/-! ## Reading -/

theorem get_of_find?_eq_none (h : d.find? id = none) (name : String) :
    d.get id name = .error (.notOpen id) := by
  unfold get
  rw [h]

theorem get_of_get?_eq_none {entry : Entry} {name : String} (h : d.find? id = some entry)
    (hnone : entry.get? name = none) : d.get id name = .error (.noDocument id name) := by
  unfold get
  rw [h]
  dsimp only
  rw [hnone]

theorem get_of_get? {entry : Entry} {name content : String} (h : d.find? id = some entry)
    (hsome : entry.get? name = some content) : d.get id name = .ok content := by
  unfold get
  rw [h]
  dsimp only
  rw [hsome]

/-- What is read of a session depends on that session only. -/
theorem get_congr (h : d.find? id = d'.find? id) (name : String) :
    d.get id name = d'.get id name := by
  unfold get
  rw [h]

/-- **What is read after a document has been kept**: the content under its name, and
under every other name what was read before. -/
theorem get_of_put {name content : String} (h : d.put id name content = .ok d')
    (other : String) :
    d'.get id other = if other = name then .ok content else d.get id other := by
  obtain ⟨entry, hfound⟩ := Option.isSome_iff_exists.mp (put_eq_ok_iff.mp h).1
  have hafter : d'.find? id = some (entry.put name content) := by
    rw [find?_of_put h, if_pos rfl, hfound]
    rfl
  unfold get
  rw [hafter, hfound]
  dsimp only
  rw [Entry.get?_put]
  by_cases hname : other = name
  · rw [if_pos hname, if_pos hname]
  · rw [if_neg hname, if_neg hname]

/-! ## Refusing -/

variable {name content : String} {error : DirectoryError}

/-- Closing is refused for one reason only. -/
theorem eq_notOpen_of_close (h : d.close id = .error error) : error = .notOpen id := by
  unfold close at h
  split at h <;> cases h
  rfl

/-- So is keeping a document. -/
theorem eq_notOpen_of_put (h : d.put id name content = .error error) : error = .notOpen id := by
  unfold put at h
  split at h <;> cases h
  rfl

/-- Reading is refused for one of two reasons. -/
theorem eq_of_get (h : d.get id name = .error error) :
    error = .notOpen id ∨ error = .noDocument id name := by
  unfold get at h
  split at h
  · cases h
    exact .inl rfl
  · split at h <;> cases h
    exact .inr rfl

end Directory

end Moorings.Session
