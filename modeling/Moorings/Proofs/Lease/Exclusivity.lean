import Moorings.Proofs.Lease.Register

/-!
# Nobody else gets a held port

A lease begins with a grant. It ends when its holder gives the port up, or when
the pool is swept at a time at which the holder has been silent for too long.
Nothing else ends it, whatever others ask of the pool and however the clock
jumps.

Whether a lease lasts can be seen from outside: a `Tenure` is what one knows of
it who saw the grant and goes on to see the operations with their answers.
`Tenure.follow` goes through them and gives up at the first that ends the lease.
The main statement is that the pool agrees with the onlooker: as long as the
tenure lasts, the port is held by this name and no other, is granted to nobody,
and obeys nobody else (`held_while_tenure_lasts`).

It is shown of registers, where an operation is a change of a map
(`Tenure.holders_step`, `Tenure.holders_run`).
-/

namespace Moorings.Lease

open Pool (Op Answer)

/-- **A lease as seen from outside.** -/
structure Tenure where
  /-- The port that was granted. -/
  port : UInt16
  /-- Who it was granted to. -/
  name : String
  /-- When it was granted, or last renewed. -/
  heard : Instant
  deriving DecidableEq, Repr

namespace Tenure

/-- The holder in whose name the port is held. -/
def holder (t : Tenure) : Holder := { name := t.name, renewed := t.heard }

/-- **What ends a lease**: its own release, or a sweep when its holder has been
silent for `timeout` or longer. -/
def isEndedBy (t : Tenure) (timeout : Span) : Op → Answer → Bool
  | .release port name, answer => port = t.port && name = t.name && answer = .outcome .ok
  | .allocate _ now, _ | .lookup _ now, _ | .expire now, _ =>
    timeout.nanos ≤ (Instant.since now t.heard).nanos
  | .renew .., _ | .stop, _ => false

/-- The lease after an operation that does not end it: its own renewal starts
it anew. -/
def next (t : Tenure) : Op → Answer → Tenure
  | .renew port name now, .outcome .ok =>
    if port = t.port ∧ name = t.name then { t with heard := now } else t
  | _, _ => t

/-- The lease after operations with their answers, if none of them ends it. -/
def follow (t : Tenure) (timeout : Span) : List (Op × Answer) → Option Tenure
  | [] => some t
  | (op, answer) :: rest =>
    if t.isEndedBy timeout op answer then none else (t.next op answer).follow timeout rest

theorem next_eq (t : Tenure) (op : Op) (answer : Answer) :
    (t.next op answer).port = t.port ∧ (t.next op answer).name = t.name := by
  unfold next
  split
  · split <;> exact ⟨rfl, rfl⟩
  · exact ⟨rfl, rfl⟩

end Tenure

namespace Register

variable {r : Register} {t : Tenure}

/-- A sweep leaves alone who has been heard of in time. -/
theorem holders_sweep (h : r.holders t.port = some t.holder) {now : Instant}
    (hnow : (Instant.since now t.heard).nanos < r.timeout.nanos) :
    (r.sweep now).holders t.port = some t.holder := by
  show (r.holders t.port).filter _ = _
  rw [h, Option.filter_some, if_pos]
  rw [Bool.not_eq_true', Holder.isSilent]
  exact decide_eq_false (Nat.not_le_of_lt hnow)

/-- **A held port is not granted.** -/
theorem allocate_ne_granted {now : Instant}
    (h : (r.sweep now).holders t.port = some t.holder) (name : String) :
    (r.allocate name now).1 ≠ .granted t.port := by
  unfold allocate
  cases hlowest : (r.sweep now).lowest? Option.isNone with
  | none => exact Grant.noConfusion
  | some port =>
    intro e
    obtain rfl : port = t.port := Grant.granted.inj e
    -- what is granted is free after the sweep, and this port is not
    have hfree := of_lowest? hlowest
    rw [h] at hfree
    cases hfree

/-- A grant leaves the other ports alone. -/
theorem holders_allocate {now : Instant}
    (h : (r.sweep now).holders t.port = some t.holder) (name : String) :
    (r.allocate name now).2.holders t.port = some t.holder := by
  have hne := allocate_ne_granted h name
  unfold allocate at hne ⊢
  cases hlowest : (r.sweep now).lowest? Option.isNone with
  | none => exact h
  | some port =>
    rw [hlowest] at hne
    show Function.update _ port _ t.port = _
    rw [Function.update_of_ne (fun e => hne (congrArg Grant.granted e.symm)), h]

/-- A held port obeys its holder only. -/
theorem any_holders (h : r.holders t.port = some t.holder) (name : String) :
    (r.holders t.port).any (·.name = name) = decide (t.name = name) := by
  rw [h]
  rfl

theorem holders_renew (h : r.holders t.port = some t.holder) (port : UInt16) (name : String)
    (now : Instant) :
    (r.renew port name now).2.holders t.port
      = some (t.next (.renew port name now) (.outcome (r.renew port name now).1)).holder := by
  unfold renew
  by_cases hany : (r.holders port).any (·.name = name) = true
  · rw [if_pos hany]
    by_cases hport : port = t.port
    · subst hport
      rw [any_holders h] at hany
      have hname : name = t.name := (of_decide_eq_true hany).symm
      show Function.update r.holders t.port _ t.port = some (ite _ _ _ : Tenure).holder
      rw [Function.update_self, if_pos ⟨rfl, hname⟩, hname]
      rfl
    · show Function.update r.holders port _ t.port = some (ite _ _ _ : Tenure).holder
      rw [Function.update_of_ne (Ne.symm hport), if_neg (fun e => hport e.1), h]
  · rw [if_neg hany]
    exact h

theorem holders_release (h : r.holders t.port = some t.holder) {port : UInt16} {name : String}
    (hlasts : t.isEndedBy r.timeout (.release port name) (.outcome (r.release port name).1)
      = false) : (r.release port name).2.holders t.port = some t.holder := by
  unfold release at hlasts ⊢
  by_cases hany : (r.holders port).any (·.name = name) = true
  · rw [if_pos hany] at hlasts ⊢
    by_cases hport : port = t.port
    · subst hport
      rw [any_holders h] at hany
      -- then this is the release that ends the lease
      simp [Tenure.isEndedBy, of_decide_eq_true hany] at hlasts
    · show Function.update _ port _ t.port = _
      rw [Function.update_of_ne (Ne.symm hport), h]
  · rw [if_neg hany]
    exact h

end Register

namespace Tenure

variable {r : Register} {t : Tenure}

/-- A sweep that does not end a lease comes in time. -/
theorem heard_of_not_isEndedBy {timeout : Span} {now : Instant}
    (h : decide (timeout.nanos ≤ (Instant.since now t.heard).nanos) = false) :
    (Instant.since now t.heard).nanos < timeout.nanos :=
  Nat.lt_of_not_le (of_decide_eq_false h)

/-- **An operation that does not end a lease leaves the port with its holder**,
as one who sees the answer expects. -/
theorem holders_step (h : r.holders t.port = some t.holder) (op : Op)
    (hlasts : t.isEndedBy r.timeout op (r.step op).1 = false) :
    (r.step op).2.holders t.port = some (t.next op (r.step op).1).holder := by
  cases op with
  | allocate name now =>
    exact Register.holders_allocate
      (Register.holders_sweep h (heard_of_not_isEndedBy hlasts)) name
  | renew port name now => exact Register.holders_renew h port name now
  | release port name => exact Register.holders_release h hlasts
  | lookup name now => exact Register.holders_sweep h (heard_of_not_isEndedBy hlasts)
  | expire now => exact Register.holders_sweep h (heard_of_not_isEndedBy hlasts)
  | stop => exact h

/-- **Nor do any number of operations**, if none of them ends the lease. -/
theorem holders_run {t' : Tenure} (h : r.holders t.port = some t.holder) (ops : List Op)
    (hlasts : t.follow r.timeout (ops.zip (r.run ops).1) = some t') :
    t'.port = t.port ∧ t'.name = t.name ∧ (r.run ops).2.holders t'.port = some t'.holder := by
  induction ops generalizing r t with
  | nil =>
    obtain rfl : t = t' := Option.some.inj hlasts
    exact ⟨rfl, rfl, h⟩
  | cons op ops ih =>
    rw [Register.run, List.zip_cons_cons, follow] at hlasts
    cases hends : t.isEndedBy r.timeout op (r.step op).1 with
    | true =>
      rw [hends] at hlasts
      cases hlasts
    | false =>
      rw [hends] at hlasts
      obtain ⟨hport, hname⟩ := t.next_eq op (r.step op).1
      have htimeout : (r.step op).2.timeout = r.timeout := by
        obtain ⟨holders, hstep⟩ := r.step_eq op
        rw [hstep]
      have hstep : (r.step op).2.holders (t.next op (r.step op).1).port
          = some (t.next op (r.step op).1).holder := by
        rw [hport]
        exact holders_step h op hends
      obtain ⟨ihport, ihname, ihholder⟩ := ih hstep (by rw [htimeout]; exact hlasts)
      exact ⟨ihport.trans hport, ihname.trans hname, ihholder⟩

end Tenure

namespace Register

/-- A grant is the beginning of a lease. -/
theorem holders_of_granted {r : Register} {name : String} {now : Instant} {port : UInt16}
    (h : (r.allocate name now).1 = .granted port) :
    (r.allocate name now).2.holders port = some { name, renewed := now } := by
  unfold allocate at h ⊢
  cases hlowest : (r.sweep now).lowest? Option.isNone with
  | none =>
    rw [hlowest] at h
    cases h
  | some lowest =>
    rw [hlowest] at h
    obtain rfl : lowest = port := Grant.granted.inj h
    show Function.update (r.sweep now).holders lowest _ lowest = _
    rw [Function.update_self]

end Register

namespace Pool.IsLaidOut

/-! ## A pool in which a port is held -/

variable {p : Pool} {t : Tenure}

/-- The holder is the only one that is reported. -/
theorem mem_leases_iff (h : p.IsLaidOut) (ht : p.holder? t.port = some t.holder) (name : String) :
    (t.port, name) ∈ p.leases ↔ name = t.name :=
  h.mem_leases_of_holder? ht name

/-- **The port is granted to nobody** by an allocation whose sweep comes in
time. -/
theorem allocate_ne (h : p.IsLaidOut) (ht : p.holder? t.port = some t.holder) (name : String)
    {now : Instant} (hnow : (Instant.since now t.heard).nanos < p.timeout.nanos) :
    (p.allocate name now).1 ≠ .granted t.port := by
  have hanswer := congrArg Prod.fst (h.allocate_register name now)
  have hswept : (p.register.sweep now).holders t.port = some t.holder :=
    Register.holders_sweep ht hnow
  show (Prod.map id register (p.allocate name now)).1 ≠ _
  rw [hanswer]
  exact Register.allocate_ne_granted hswept name

/-- A name that does not hold the port is not found to hold it. -/
theorem heldAt?_eq_none (h : p.IsLaidOut) (ht : p.holder? t.port = some t.holder) {name : String}
    (hne : name ≠ t.name) : p.heldAt? t.port name = none := by
  rw [← Option.isNone_iff_eq_none, ← Option.not_isSome, h.isSome_heldAt?, ht, Option.any_some,
    Bool.not_eq_true']
  exact decide_eq_false (Ne.symm hne)

/-- **Nobody else renews it.** -/
theorem renew_eq_notFound (h : p.IsLaidOut) (ht : p.holder? t.port = some t.holder)
    {name : String} (hne : name ≠ t.name) (now : Instant) :
    p.renew t.port name now = (.notFound, p) := by
  rw [Pool.renew, h.heldAt?_eq_none ht hne]

/-- **Nobody else releases it.** -/
theorem release_eq_notFound (h : p.IsLaidOut) (ht : p.holder? t.port = some t.holder)
    {name : String} (hne : name ≠ t.name) : p.release t.port name = (.notFound, p) := by
  rw [Pool.release, h.heldAt?_eq_none ht hne]

/-- **The holder does.** -/
theorem renew_eq_ok (h : p.IsLaidOut) (ht : p.holder? t.port = some t.holder) (now : Instant) :
    (p.renew t.port t.name now).1 = .ok := by
  have hheld : (p.heldAt? t.port t.name).isSome = true := by
    rw [h.isSome_heldAt?, ht, Option.any_some]
    exact decide_eq_true rfl
  obtain ⟨i, hi⟩ := Option.isSome_iff_exists.mp hheld
  rw [Pool.renew, hi]

/-- **A grant begins a tenure.** -/
theorem holder?_of_granted (h : p.IsLaidOut) {name : String} {now : Instant} {port : UInt16}
    {granted : Pool} (hgrant : p.step (.allocate name now) = (.grant (.granted port), granted)) :
    granted.holder? port = some { name, renewed := now } := by
  have hstep := h.register_step (.allocate name now)
  rw [hgrant, Prod.ext_iff] at hstep
  have hanswer := Answer.grant.inj hstep.1
  have hholders : granted.holder? = (p.register.allocate name now).2.holders :=
    congrArg Register.holders hstep.2
  rw [hholders]
  exact Register.holders_of_granted hanswer.symm

/-- **While the tenure lasts, the port is held.** -/
theorem holder?_run (h : p.IsLaidOut) (ht : p.holder? t.port = some t.holder) (ops : List Op)
    {t' : Tenure} (hlasts : t.follow p.timeout (ops.zip (p.run ops).1) = some t') :
    t'.port = t.port ∧ t'.name = t.name ∧ (p.run ops).2.holder? t'.port = some t'.holder := by
  have hrun := Prod.ext_iff.mp (h.register_run ops)
  have hholders : (p.run ops).2.holder? = (p.register.run ops).2.holders :=
    congrArg Register.holders hrun.2
  rw [show (p.run ops).1 = _ from hrun.1] at hlasts
  rw [hholders]
  exact Tenure.holders_run ht ops hlasts

end Pool.IsLaidOut

/-- **A granted port is held by the one it was granted to**, and by nobody else,
until this one releases it or is silent for too long when the pool is swept.
`before` is what was asked of the pool before the grant, and `after` what was
asked since then; the tenure is followed through the latter with its answers.
While it lasts, the port is not granted again, whoever else renews or releases
it is told that there is no such lease and changes nothing, and the holder's
own renewal is accepted. -/
theorem held_while_tenure_lasts {first last : UInt16} {timeout : Span} {new : Pool}
    (hnew : Pool.new first last timeout = .ok new) (before after : List Op)
    {name : String} {now : Instant} {port : UInt16} {granted : Pool}
    (hgrant : (new.run before).2.step (.allocate name now) = (.grant (.granted port), granted))
    {tenure : Tenure}
    (hlasts : (Tenure.mk port name now).follow timeout (after.zip (granted.run after).1)
      = some tenure) :
    (granted.run after).2.holder? port = some { name, renewed := tenure.heard }
    ∧ (∀ other, (port, other) ∈ (granted.run after).2.leases ↔ other = name)
    ∧ (∀ other later, (Instant.since later tenure.heard).nanos < timeout.nanos →
        ((granted.run after).2.allocate other later).1 ≠ .granted port)
    ∧ (∀ other later, other ≠ name →
        (granted.run after).2.renew port other later = (.notFound, (granted.run after).2)
        ∧ (granted.run after).2.release port other = (.notFound, (granted.run after).2))
    ∧ ∀ later, ((granted.run after).2.renew port name later).1 = .ok := by
  have hlaid := (Pool.isLaidOut_of_new hnew).run before
  -- the grant is one more operation, and what was asked since then begins with its pool
  have hholder := hlaid.holder?_of_granted hgrant
  have hgranted : granted.IsLaidOut := by
    have := hlaid.step (.allocate name now)
    rwa [hgrant] at this
  have htimeout : granted.timeout = timeout := by
    have hstep := hlaid.timeout_step (.allocate name now)
    rw [hgrant, (Pool.isLaidOut_of_new hnew).timeout_run before] at hstep
    exact hstep.trans (congrArg Register.timeout (Pool.register_of_new hnew))
  obtain ⟨rfl, rfl, hheld⟩ :=
    hgranted.holder?_run (t := ⟨port, name, now⟩) hholder after (by rw [htimeout]; exact hlasts)
  have hafter := hgranted.run after
  have hafterTimeout : (granted.run after).2.timeout = timeout :=
    (hgranted.timeout_run after).trans htimeout
  refine ⟨hheld, fun other => hafter.mem_leases_iff hheld other, fun other later hlater => ?_,
    fun other later hne => ?_, fun later => hafter.renew_eq_ok hheld later⟩
  · exact hafter.allocate_ne hheld other (by rw [hafterTimeout]; exact hlater)
  · exact ⟨hafter.renew_eq_notFound hheld hne later, hafter.release_eq_notFound hheld hne⟩

/-- A holder that renews with a clock gone backwards keeps its port through a
grant, an attempt of another to release it, and two sweeps. -/
theorem held_after_renewal :
    ∃ new granted, Pool.new 40000 40001 ⟨5⟩ = .ok new
      ∧ (new.run [.allocate "a" 9]).2.step (.allocate "b" 7)
        = (.grant (.granted 40001), granted)
      ∧ (granted.run [.renew 40001 "b" 3, .allocate "c" 7, .release 40001 "c", .expire 7]).2.holder?
          40001 = some { name := "b", renewed := 3 }
      ∧ ((granted.run [.renew 40001 "b" 3, .allocate "c" 7, .release 40001 "c",
          .expire 7]).2.allocate "c" 2).1 ≠ .granted 40001 := by
  have hnew : Pool.new 40000 40001 ⟨5⟩
      = .ok ⟨40000, 40001, ⟨5⟩, Pool.freeSlots 40000 40001, 0, false⟩ := rfl
  refine ⟨_, _, hnew, rfl, ?_⟩
  obtain ⟨hheld, -, hgrant, -, -⟩ := held_while_tenure_lasts hnew [.allocate "a" 9]
    [.renew 40001 "b" 3, .allocate "c" 7, .release 40001 "c", .expire 7]
    (rfl : Pool.step _ (.allocate "b" 7) = (.grant (.granted 40001), _))
    (by decide : Tenure.follow _ _ _ = some ⟨40001, "b", 3⟩)
  exact ⟨hheld, hgrant "c" 2 (by decide)⟩

end Moorings.Lease
