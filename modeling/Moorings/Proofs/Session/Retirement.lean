import Moorings.Proofs.Session.Records

/-!
# A session that has been closed is gone for good

Ids are handed out one after another and none of them twice, so what was closed
under an id cannot come back under it. `History.issued` lists the ids in the
order in which they were handed out, and `History.InOrder` says that the list is
1, 2, 3 and so on.

A connection may go on holding a session that another one has closed. It is then
refused everything but the closing of other sessions (`Hub.Records.refuses`),
and so it never comes to hold another session (`Hub.Records.held_run`): whatever
sessions are opened later, it has no part in them. Together with the fate of the
id itself this is `Hub.closed_for_good`.
-/

namespace Moorings.Session

/-- The id that was handed out, if a session was opened. -/
def Event.issued? (e : Event) : Option UInt64 :=
  match e.request, e.response with
  | .openSession, .accepted id => some id
  | _, _ => none

theorem Event.isOpening_eq (e : Event) : e.isOpening = e.issued?.isSome := by
  obtain ⟨held, request, response⟩ := e
  cases request <;> cases response <;> rfl

/-! ## Ids in the order in which they were handed out -/

namespace History

variable {past : List Event} {e : Event} {id : UInt64}

/-- **The ids that have been handed out**, from the first to the last. -/
def issued (past : List Event) : List UInt64 := past.filterMap (·.issued?)

/-- Ids handed out by counting from 1. -/
def InOrder (past : List Event) : Prop :=
  (issued past).map UInt64.toNat = List.range' 1 (openings past)

theorem issued_concat (past : List Event) (e : Event) :
    issued (past ++ [e]) = issued past ++ e.issued?.toList := by
  unfold issued
  rw [List.filterMap_append, List.filterMap_cons, List.filterMap_nil]
  cases e.issued? <;> rfl

/-- Where no id is handed out, the order is what it was. -/
theorem InOrder.concat_of_none (h : InOrder past) (he : e.issued? = none) :
    InOrder (past ++ [e]) := by
  have hopening : e.isOpening = false := by rw [e.isOpening_eq, he]; rfl
  unfold InOrder
  rw [issued_concat, he, openings_concat, hopening]
  exact (congrArg (List.map _) (List.append_nil _)).trans h

/-- An id handed out is the next one in order if it is the number of sessions
opened with it. -/
theorem InOrder.concat_of_some (h : InOrder past) (he : e.issued? = some id)
    (hid : id.toNat = openings past + 1) : InOrder (past ++ [e]) := by
  have hopening : e.isOpening = true := by rw [e.isOpening_eq, he]; rfl
  unfold InOrder
  rw [issued_concat, he, openings_concat, hopening, List.map_append, h, if_pos rfl,
    List.range'_1_concat]
  show _ ++ [id.toNat] = _
  rw [hid, Nat.add_comm]

/-- **What was handed out** is what stands in the list. -/
theorem InOrder.mem_issued_iff (h : InOrder past) : id ∈ issued past ↔ WasIssued past id := by
  have hmem : id ∈ issued past ↔ id.toNat ∈ (issued past).map UInt64.toNat := by
    refine ⟨fun hid => List.mem_map_of_mem hid, fun hid => ?_⟩
    obtain ⟨id', hid', heq⟩ := List.mem_map.mp hid
    exact UInt64.toNat_inj.mp heq ▸ hid'
  rw [hmem, h, List.mem_range'_1]
  unfold WasIssued
  omega

/-- No id is handed out twice. -/
theorem InOrder.nodup (h : InOrder past) : (issued past).Nodup :=
  List.Nodup.of_map UInt64.toNat (h ▸ List.nodup_range')

/-- The number 0 is no id. -/
theorem InOrder.zero_notMem (h : InOrder past) : 0 ∉ issued past := by
  rw [h.mem_issued_iff]
  exact fun hissued => absurd hissued.1 (Nat.lt_irrefl 0)

end History

namespace Hub

open History

variable {h h' : Hub} {past : List Event} {number : Nat} {id : UInt64}

/-- **A session that is opened gets the next id in order**, and nothing else that
happens hands out an id. -/
theorem Records.inOrder_of_happens (hr : h.Records past) {request : Request}
    {response : Response} (hh : h.Happens number request response h') (horder : InOrder past) :
    InOrder (past ++ [⟨h.held number, request, response⟩]) := by
  cases hh with
  | opened hfree => exact horder.concat_of_some rfl hr.directory.nextId_eq
  | resumed hfree hopen => exact horder.concat_of_none rfl
  | closed hclose => exact horder.concat_of_none rfl
  | kept hheld hput => exact horder.concat_of_none rfl
  | read hheld hget => exact horder.concat_of_none rfl
  | rejected hfree hopen => exact horder.concat_of_none rfl
  | refused message => exact horder.concat_of_none (by cases request <;> rfl)

/-- Ids are handed out in order in every run. -/
theorem inOrder_run (ops : List (Nat × Request))
    (hroom : openings (({} : Hub).events ops) < 2 ^ 64 - 1) :
    InOrder (({} : Hub).events ops) :=
  (run_induction (P := fun h past => h.Records past ∧ InOrder past)
    (fun hfirst hp => ⟨hp.1.of_happens (happens_handle _ _ _) hfirst,
      hp.1.inOrder_of_happens (happens_handle _ _ _) hp.2⟩)
    ⟨records_nil, rfl⟩ ops hroom).2

/-! ## After a session has been closed -/

theorem Records.isOpen_of_wasClosed (hr : h.Records past) (hclosed : WasClosed past id) :
    h.directory.isOpen id = false := by
  rw [← Bool.not_eq_true]
  exact fun hopen => ((hr.directory.isOpen_iff id).mp hopen).2 hclosed

/-- A closed session cannot be taken up again. -/
theorem Records.response_resume (hr : h.Records past) (hclosed : WasClosed past id)
    (hfree : h.held number = none) :
    (h.handle number (.resume id)).1.response = .rejected unableToResume := by
  show (Connection.resume { held := h.held number } h.directory id).1.response = _
  unfold Connection.resume
  rw [hfree, hr.isOpen_of_wasClosed hclosed]
  rfl

/-- A closed session cannot be closed again. -/
theorem Records.response_close (hr : h.Records past) (hclosed : WasClosed past id)
    (number : Nat) :
    (h.handle number (.close id)).1.response = .error (DirectoryError.notOpen id).message := by
  show (Connection.close { held := h.held number } h.directory id).1.response = _
  unfold Connection.close Directory.close
  rw [hr.isOpen_of_wasClosed hclosed]
  rfl

/-- **Whoever holds a closed session is refused** whatever it asks for, unless it
is to close a session, and nothing comes of what it has asked for. -/
theorem Records.refuses (hr : h.Records past) (hclosed : WasClosed past id)
    (hheld : h.held number = some id) {request : Request}
    (hrequest : ∀ other, request ≠ .close other) :
    ∃ message, (h.handle number request).1.response = .error message
      ∧ (h.handle number request).2 = h := by
  have hopen := hr.isOpen_of_wasClosed hclosed
  have hh := h.happens_handle number request
  generalize (h.handle number request).1.response = response at hh
  generalize (h.handle number request).2 = after at hh
  cases hh with
  | opened hfree => cases hheld.symm.trans hfree
  | resumed hfree => cases hheld.symm.trans hfree
  | rejected hfree => cases hheld.symm.trans hfree
  | closed => exact absurd rfl (hrequest _)
  | kept hheld' hput =>
    cases hheld.symm.trans hheld'
    exact absurd (Directory.put_eq_ok_iff.mp hput).1 (Bool.eq_false_iff.mp hopen)
  | read hheld' hget =>
    cases hheld.symm.trans hheld'
    rw [Directory.get_of_find?_eq_none (Directory.find?_of_isOpen_eq_false hopen)] at hget
    cases hget
  | refused request message => exact ⟨message, rfl, rfl⟩

/-- Whoever holds a closed session holds it after the next request too, whichever
connection that comes from. -/
theorem Records.held_of_happens (hr : h.Records past) (hclosed : WasClosed past id)
    (hheld : h.held number = some id) {asking : Nat} {request : Request} {response : Response}
    (hh : h.Happens asking request response h') : h'.held number = some id := by
  by_cases hasking : number = asking
  · subst hasking
    cases hh with
    | opened hfree => cases hheld.symm.trans hfree
    | resumed hfree => cases hheld.symm.trans hfree
    | closed hclose =>
      -- only a session that is open can be closed, so it is another one
      have hother := (Directory.close_eq_ok_iff.mp hclose).1
      rw [held_after, if_pos rfl, hheld, if_neg]
      rintro ⟨⟩
      exact absurd hother (Bool.eq_false_iff.mp (hr.isOpen_of_wasClosed hclosed))
    | kept hheld' => rw [held_after, if_pos rfl, ← hheld', hheld]
    | read => exact hheld
    | rejected => exact hheld
    | refused => exact hheld
  · cases hh with
    | opened => rw [held_after, if_neg hasking, hheld]
    | resumed => rw [held_after, if_neg hasking, hheld]
    | closed => rw [held_after, if_neg hasking, hheld]
    | kept => rw [held_after, if_neg hasking, hheld]
    | read => exact hheld
    | rejected => exact hheld
    | refused => exact hheld

/-- **Whoever holds a closed session holds it for good.** -/
theorem Records.held_run (hr : h.Records past) (hclosed : WasClosed past id)
    (hheld : h.held number = some id) (ops : List (Nat × Request))
    (hroom : openings (past ++ h.events ops) < 2 ^ 64 - 1) :
    (h.run ops).2.held number = some id :=
  (run_induction
    (P := fun h past => h.Records past ∧ WasClosed past id ∧ h.held number = some id)
    (fun hfirst hp => ⟨hp.1.of_happens (happens_handle _ _ _) hfirst,
      wasClosed_append.mpr (.inl hp.2.1),
      hp.1.held_of_happens hp.2.1 hp.2.2 (happens_handle _ _ _)⟩)
    ⟨hr, hclosed, hheld⟩ ops hroom).2.2

/-- **A session that has been closed is gone for good**, whichever requests any
number of connections make in whichever order. Ids are handed out by counting
from 1, so that 0 is never among them and none is handed out twice; whatever is
open or held has been handed out. Once a session has been closed, whatever more
is asked for, it is neither taken up nor closed again. A connection that still
held it then holds it ever after; it is refused everything but the closing of
sessions, and what it asks for changes nothing. -/
theorem closed_for_good (ops more : List (Nat × Request))
    (hroom : openings (({} : Hub).events (ops ++ more)) < 2 ^ 64 - 1) :
    let past := ({} : Hub).events (ops ++ more)
    let h := (({} : Hub).run (ops ++ more)).2
    (issued past).map UInt64.toNat = List.range' 1 (openings past)
      ∧ 0 ∉ issued past ∧ (issued past).Nodup
      ∧ (∀ id, h.directory.isOpen id = true → id ∈ issued past)
      ∧ (∀ number id, h.held number = some id → id ∈ issued past)
      ∧ ∀ id, WasClosed (({} : Hub).events ops) id → ∀ number,
        (h.held number = none →
          (h.handle number (.resume id)).1.response = .rejected unableToResume)
        ∧ (h.handle number (.close id)).1.response = .error (DirectoryError.notOpen id).message
        ∧ ((({} : Hub).run ops).2.held number = some id → h.held number = some id
          ∧ ∀ request, (∀ other, request ≠ .close other) →
            ∃ message, (h.handle number request).1.response = .error message
              ∧ (h.handle number request).2 = h) := by
  intro past h
  have hr : h.Records past := records_run (ops ++ more) hroom
  have horder : InOrder past := inOrder_run (ops ++ more) hroom
  refine ⟨horder, horder.zero_notMem, horder.nodup, fun id hopen => ?_, fun number id hheld => ?_,
    fun id hclosed number => ?_⟩
  · exact horder.mem_issued_iff.mpr ((hr.directory.isOpen_iff id).mp hopen).1
  · exact horder.mem_issued_iff.mpr (hr.wasIssued_of_held hheld)
  · have hpast : past = ({} : Hub).events ops ++ (({} : Hub).run ops).2.events more :=
      events_append {} ops more
    have hclosed' : WasClosed past id := hpast ▸ wasClosed_append.mpr (.inl hclosed)
    refine ⟨hr.response_resume hclosed', hr.response_close hclosed' number, fun hheld => ?_⟩
    have hfirst : openings (({} : Hub).events ops) < 2 ^ 64 - 1 := by
      refine Nat.lt_of_le_of_lt ?_ hroom
      rw [events_append, openings_append]
      exact Nat.le_add_right _ _
    have hheld' : h.held number = some id := by
      show ((({} : Hub).run (ops ++ more)).2).held number = some id
      rw [run_append]
      exact (records_run ops hfirst).held_run hclosed hheld more (hpast ▸ hroom)
    exact ⟨hheld', fun request hrequest => hr.refuses hclosed' hheld' hrequest⟩

/-- Connection 1 holds session 1 when connection 0 closes it and keeps a document
in a new session. Connection 1 goes on holding session 1, even after it has
closed the new one, and is refused a document of the same name. -/
theorem closed_for_good_after_reopening :
    let ops : List (Nat × Request) := [(0, .openSession), (1, .resume 1), (0, .close 1)]
    let more : List (Nat × Request) :=
      [(0, .openSession), (0, .post "a" "x"), (1, .post "a" "y"), (1, .close 2)]
    let h := (({} : Hub).run (ops ++ more)).2
    issued (({} : Hub).events (ops ++ more)) = [1, 2]
      ∧ h.held 1 = some 1
      ∧ ∃ message, (h.handle 1 (.get "a")).1.response = .error message := by
  intro ops more h
  obtain ⟨-, -, -, -, -, hgone⟩ := closed_for_good ops more (by decide)
  obtain ⟨-, -, hholder⟩ := hgone 1 (by decide) 1
  obtain ⟨hheld, hrefused⟩ := hholder (by decide)
  obtain ⟨message, hmessage, -⟩ := hrefused (.get "a") (fun _ => Request.noConfusion)
  exact ⟨by decide, hheld, message, hmessage⟩

end Hub

end Moorings.Session
