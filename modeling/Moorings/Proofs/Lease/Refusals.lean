import Moorings.Proofs.Lease.Layout
import Moorings.Proofs.Lease.Sweeping

/-!
# What is refused leaves no trace

A pool refuses in two ways. It grants no port if all are busy, and it neither
renews nor releases a lease that there is not. Either way it is left as it was,
to the last reading of the clock: the operation might as well not have been
asked for, and a history of a pool can do without all that was refused in it
(`Pool.IsLaidOut.run_accepted`).

For renewals and releases this is how they are written. Asking for a port is
different, because the pool is swept before it is known whether there is a
port. But a sweep that takes a port back has a port to give out. So all ports
are busy only if the sweep has found nothing to do
(`Pool.IsLaidOut.sweep_of_allBusy`), and this needs the lowest free position to
be right: if it were not, a port could have been taken back above it, and would
not have been found.
-/

namespace Moorings.Lease

namespace Pool

variable {p : Pool}

/-! ## The three refusals -/

/-- If all ports are busy, then none is free even after the sweep. -/
theorem IsLaidOut.find?_of_allBusy (h : p.IsLaidOut) {name : String} {now : Instant}
    (hbusy : (p.allocate name now).1 = .allBusy) :
    (p.sweep now).slots.find? Slot.isFree = none := by
  rw [h.allocate_eq] at hbusy
  cases hfree : (p.sweep now).slots.find? Slot.isFree with
  | none => rfl
  | some slot =>
    rw [hfree] at hbusy
    cases hbusy

/-- **If all ports are busy, then no lease has been swept away.** -/
theorem IsLaidOut.sweep_of_allBusy (h : p.IsLaidOut) {name : String} {now : Instant}
    (hbusy : (p.allocate name now).1 = .allBusy) : p.sweep now = p := by
  refine sweep_eq_self fun slot hslot => ?_
  -- an expired slot would be free after the sweep
  have hheld := List.find?_eq_none.mp (h.find?_of_allBusy hbusy) _ (List.mem_map_of_mem hslot)
  rw [Slot.isFree_sweepSlot, Bool.not_eq_true, Bool.or_eq_false_iff] at hheld
  exact hheld.2

/-- **A request for a port that is refused** changes nothing. -/
theorem IsLaidOut.allocate_of_allBusy (h : p.IsLaidOut) {name : String} {now : Instant}
    (hbusy : (p.allocate name now).1 = .allBusy) : (p.allocate name now).2 = p := by
  rw [h.allocate_eq, h.find?_of_allBusy hbusy]
  exact h.sweep_of_allBusy hbusy

/-- **A renewal that is refused** changes nothing. -/
theorem renew_of_notFound {port : UInt16} {name : String} {now : Instant}
    (hnone : (p.renew port name now).1 = .notFound) : (p.renew port name now).2 = p := by
  unfold Pool.renew at hnone ⊢
  cases hheld : p.heldAt? port name with
  | none => rfl
  | some i =>
    rw [hheld] at hnone
    cases hnone

/-- **A release that is refused** changes nothing. -/
theorem release_of_notFound {port : UInt16} {name : String}
    (hnone : (p.release port name).1 = .notFound) : (p.release port name).2 = p := by
  unfold Pool.release at hnone ⊢
  cases hheld : p.heldAt? port name with
  | none => rfl
  | some i =>
    rw [hheld] at hnone
    cases hnone

/-! ## Histories without what was refused -/

/-- Whether an answer is a refusal. That a name holds no port is none: it is what
a lookup has found out, and the lookup has swept the pool. -/
def Answer.isRefusal : Answer → Bool
  | .grant .allBusy | .outcome .notFound => true
  | _ => false

theorem Answer.isRefusal_iff {answer : Answer} :
    answer.isRefusal = true ↔ answer = .grant .allBusy ∨ answer = .outcome .notFound := by
  unfold isRefusal
  split <;> simp_all

/-- **One operation that is refused** changes nothing. -/
theorem IsLaidOut.step_of_isRefusal (h : p.IsLaidOut) {op : Op}
    (hrefused : (p.step op).1.isRefusal = true) : (p.step op).2 = p := by
  obtain hbusy | hnone := Answer.isRefusal_iff.mp hrefused
  · cases op with
    | allocate name now => exact h.allocate_of_allBusy (Answer.grant.inj hbusy)
    | _ => cases hbusy
  · cases op with
    | renew port name now => exact renew_of_notFound (Answer.outcome.inj hnone)
    | release port name => exact release_of_notFound (Answer.outcome.inj hnone)
    | _ => cases hnone

/-- The operations that were not refused when they were performed one after
another, with their answers. -/
def accepted (p : Pool) (ops : List Op) : List (Op × Answer) :=
  (ops.zip (p.run ops).1).filter fun entry => !entry.2.isRefusal

theorem accepted_cons_of_isRefusal {op : Op} (h : (p.step op).1.isRefusal = true)
    (ops : List Op) : p.accepted (op :: ops) = (p.step op).2.accepted ops := by
  rw [accepted, run_cons, List.zip_cons_cons, List.filter_cons_of_neg (by simp [h]), accepted]

theorem accepted_cons {op : Op} (h : (p.step op).1.isRefusal = false) (ops : List Op) :
    p.accepted (op :: ops) = (op, (p.step op).1) :: (p.step op).2.accepted ops := by
  rw [accepted, run_cons, List.zip_cons_cons, List.filter_cons_of_pos (by simp [h]), accepted]

/-- **A history can do without what was refused in it**: the other operations,
performed alone, have the answers that they had, and leave the same pool. -/
theorem IsLaidOut.run_accepted (h : p.IsLaidOut) (ops : List Op) :
    p.run ((p.accepted ops).map Prod.fst)
      = ((p.accepted ops).map Prod.snd, (p.run ops).2) := by
  induction ops generalizing p with
  | nil => rfl
  | cons op ops ih =>
    have hrest := ih (h.step op)
    rw [run_cons p op ops]
    cases hrefused : (p.step op).1.isRefusal with
    | true =>
      rw [accepted_cons_of_isRefusal hrefused]
      rwa [h.step_of_isRefusal hrefused] at hrest ⊢
    | false => rw [accepted_cons hrefused, List.map_cons, List.map_cons, run_cons, hrest]

/-- **Failed operations leave no trace.** In whatever state a pool is, after
whatever operations with whatever readings of the clock: if all ports are busy,
or there is no lease to be renewed or released, then the pool is the same pool
afterwards. So of whatever is asked of it from then on, all that is refused can
be left out without any other answer or the pool in the end being different. -/
theorem refusals_leave_no_trace {first last : UInt16} {timeout : Span} {new : Pool}
    (hnew : Pool.new first last timeout = .ok new) (before ops : List Op) :
    let p := (new.run before).2
    (∀ name now, (p.allocate name now).1 = .allBusy → (p.allocate name now).2 = p)
    ∧ (∀ port name now, (p.renew port name now).1 = .notFound → (p.renew port name now).2 = p)
    ∧ (∀ port name, (p.release port name).1 = .notFound → (p.release port name).2 = p)
    ∧ p.run ((p.accepted ops).map Prod.fst)
        = ((p.accepted ops).map Prod.snd, (p.run ops).2) := by
  intro p
  have hlaid : p.IsLaidOut := (isLaidOut_of_new hnew).run before
  exact ⟨fun _ _ hbusy => hlaid.allocate_of_allBusy hbusy, fun _ _ _ hnone =>
    renew_of_notFound hnone, fun _ _ hnone => release_of_notFound hnone, hlaid.run_accepted ops⟩

/-- A port that is refused just before the lease below it expires, and given out
just after, among refusals of the other kinds. -/
theorem refusals_leave_no_trace_until_expired :
    ∃ new, Pool.new 40000 40001 ⟨5⟩ = .ok new
      ∧ let p := (new.run [.allocate "a" 3, .allocate "b" 4]).2
        let ops : List Op := [.allocate "c" 7, .renew 40001 "a" 7, .renew 7 "b" 7,
          .release 40000 "b", .allocate "c" 8, .release 40001 "c"]
        (p.allocate "c" 7).1 = .allBusy ∧ (p.allocate "c" 7).2 = p
        ∧ p.accepted ops = [(.allocate "c" 8, .grant (.granted 40000))]
        ∧ p.run [.allocate "c" 8] = ([.grant (.granted 40000)], (p.run ops).2) := by
  refine ⟨⟨40000, 40001, ⟨5⟩, freeSlots 40000 40001, 0, false⟩, rfl, ?_⟩
  intro p ops
  have hbusy : (p.allocate "c" 7).1 = .allBusy := by decide
  have haccepted : p.accepted ops = [(.allocate "c" 8, .grant (.granted 40000))] := by decide
  obtain ⟨hallocate, -, -, hrun⟩ := refusals_leave_no_trace
    (rfl : Pool.new 40000 40001 ⟨5⟩ = .ok _) [.allocate "a" 3, .allocate "b" 4] ops
  refine ⟨hbusy, hallocate "c" 7 hbusy, haccepted, ?_⟩
  change p.run ((p.accepted ops).map Prod.fst) = ((p.accepted ops).map Prod.snd, _) at hrun
  rwa [haccepted] at hrun

end Pool

end Moorings.Lease
