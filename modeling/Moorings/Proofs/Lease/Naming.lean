import Moorings.Proofs.Lease.Operations
import Moorings.Proofs.Lease.UntilStop

/-!
# Nobody is not the name of anybody

A message may have no name, and then it is nobody's. Of the messages that ask for
something in somebody's name only the one that asks for a port is looked at for this.
The others need not be: nobody holds a port, so there is nothing that could be renewed,
released or found in nobody's name.

That nobody holds a port is a fact about everything that has been asked of the pool. A
holder gets its name with its port and keeps it until it loses the port, so a pool in
which every holder has a name stays one as long as no port is asked for in nobody's name
(`Register.IsNamed.run`), and no message asks for one
(`Service.allocate_notMem_operations`). It is what a client relies on that takes a reply
without a name for the answer to whatever it has asked: such a reply reports a success
only if it is the reply to a `STOP` (`Service.nobody_holds_a_port`).
-/

namespace Moorings.Lease

open Pool (Op)

namespace Register

/-- **Every holder has a name.** -/
def IsNamed (r : Register) : Prop :=
  ∀ port holder, r.holders port = some holder → holder.name ≠ ""

variable {r : Register}

namespace IsNamed

theorem empty (first last : UInt16) (timeout : Span) : (Register.empty first last timeout).IsNamed :=
  nofun

/-- A port is not nobody's. -/
theorem any_eq_false (h : r.IsNamed) (port : UInt16) :
    (r.holders port).any (·.name = "") = false := by
  cases hholder : r.holders port with
  | none => rfl
  | some holder => exact decide_eq_false (h port holder hholder)

/-- A sweep only takes holders away. -/
theorem sweep (h : r.IsNamed) (now : Instant) : (r.sweep now).IsNamed := fun port holder hholder =>
  h port holder (Option.filter_eq_some_iff.mp hholder).1

/-- A port may be given to whoever has a name, and taken from anybody. -/
theorem update (h : r.IsNamed) (port : UInt16) {new : Option Holder}
    (hnew : ∀ holder, new = some holder → holder.name ≠ "") :
    ({ r with holders := Function.update r.holders port new } : Register).IsNamed := by
  intro other holder hholder
  change Function.update r.holders port new other = some holder at hholder
  rw [Function.update_apply] at hholder
  split at hholder
  · exact hnew holder hholder
  · exact h other holder hholder

/-- **One operation**, unless it asks for a port in nobody's name. -/
theorem step (h : r.IsNamed) {op : Op} (hop : ∀ now, op ≠ .allocate "" now) :
    (r.step op).2.IsNamed := by
  cases op with
  | allocate name now =>
    show (r.allocate name now).2.IsNamed
    have hname : name ≠ "" := fun e => hop now (e ▸ rfl)
    unfold Register.allocate
    split
    · exact h.sweep now
    · exact (h.sweep now).update _ fun holder e => Option.some.inj e ▸ hname
  | renew port name now =>
    show (r.renew port name now).2.IsNamed
    unfold Register.renew
    split
    · rename_i hheld
      -- whoever renews a lease has the name of its holder
      refine h.update port fun holder e hnone => ?_
      obtain rfl : name = "" := by rwa [← Option.some.inj e] at hnone
      rw [h.any_eq_false port] at hheld
      cases hheld
    · exact h
  | release port name =>
    show (r.release port name).2.IsNamed
    unfold Register.release
    split
    · exact h.update port nofun
    · exact h
  | lookup name now => exact h.sweep now
  | expire now => exact h.sweep now
  | stop => exact h

/-- **Any number of operations.** -/
theorem run (h : r.IsNamed) {ops : List Op} (hops : ∀ now, .allocate "" now ∉ ops) :
    (r.run ops).2.IsNamed := by
  induction ops generalizing r with
  | nil => exact h
  | cons op ops ih =>
    exact ih (h.step fun now e => hops now (e ▸ List.mem_cons_self))
      fun now hmem => hops now (List.mem_cons_of_mem op hmem)

end IsNamed

end Register

namespace Pool

/-! ## What is asked in nobody's name -/

variable {p : Pool}

/-- Nobody is not found at any port. -/
theorem IsLaidOut.heldAt?_nobody (h : p.IsLaidOut) (hnamed : p.register.IsNamed)
    (port : UInt16) : p.heldAt? port "" = none := by
  have hnobody : (p.holder? port).any (·.name = "") = false := hnamed.any_eq_false port
  rw [← Option.isNone_iff_eq_none, ← Option.not_isSome, h.isSome_heldAt?, hnobody]
  rfl

/-- **Nobody renews a lease.** -/
theorem IsLaidOut.renew_nobody (h : p.IsLaidOut) (hnamed : p.register.IsNamed) (port : UInt16)
    (now : Instant) : p.renew port "" now = (.notFound, p) := by
  rw [Pool.renew, h.heldAt?_nobody hnamed]

/-- **Nobody releases one.** -/
theorem IsLaidOut.release_nobody (h : p.IsLaidOut) (hnamed : p.register.IsNamed)
    (port : UInt16) : p.release port "" = (.notFound, p) := by
  rw [Pool.release, h.heldAt?_nobody hnamed]

/-- **Nobody is found**, though the pool is swept for it. -/
theorem IsLaidOut.lookup_nobody (h : p.IsLaidOut) (hnamed : p.register.IsNamed)
    (now : Instant) : p.lookup "" now = (none, p.sweep now) := by
  have hlookup := congrArg Prod.fst (h.lookup_register "" now)
  refine Prod.ext (Eq.trans hlookup ?_) rfl
  cases hlowest : (p.register.lookup "" now).1 with
  | none => rfl
  | some port =>
    have hheld := Register.of_lowest? hlowest
    rw [(hnamed.sweep now).any_eq_false port] at hheld
    cases hheld

end Pool

namespace Service

/-! ## The service -/

variable {first last : UInt16} {timeout : Span} {new : Pool}

/-- **Every holder has a name**, whatever messages have come. -/
theorem isNamed_handleAll (hnew : Pool.new first last timeout = .ok new)
    (ms : List (Instant × Message)) : (handleAll new ms).2.register.IsNamed := by
  have hrun := congrArg Prod.snd ((Pool.isLaidOut_of_new hnew).register_run (operations ms))
  rw [snd_handleAll]
  change (new.run (operations ms)).2.register = _ at hrun
  rw [hrun, Pool.register_of_new hnew]
  exact (Register.IsNamed.empty first last timeout).run (allocate_notMem_operations ms)

variable {pool : Pool} {now : Instant} {m : Message}

/-- **What is said to nobody** who wants to renew or release a lease. -/
theorem handle_held_nobody (h : pool.IsLaidOut) (hnamed : pool.register.IsNamed)
    (hname : m.name = "") (hkind : m.kind = .keepAlive ∨ m.kind = .closePort) :
    handle pool now m = (.response "" m.port .serviceNotFound, pool) := by
  obtain hkind | hkind := hkind
  · rw [handle, hkind]
    dsimp only
    rw [hname, h.renew_nobody hnamed]
    rfl
  · rw [handle, hkind]
    dsimp only
    rw [hname, h.release_nobody hnamed]
    rfl

/-- **What is said to nobody** who wants to know its port. -/
theorem handle_lookup_nobody (h : pool.IsLaidOut) (hnamed : pool.register.IsNamed)
    (hname : m.name = "") (hkind : m.kind = .lookupPort) :
    handle pool now m = (.response "" 0 .serviceNotFound, pool.sweep now) := by
  rw [handle, hkind]
  dsimp only
  rw [hname, h.lookup_nobody hnamed]

/-- A success without a name is the reply to a `STOP`. -/
theorem kind_eq_stop (h : pool.IsLaidOut) (hnamed : pool.register.IsNamed)
    (hsuccess : (handle pool now m).1.status = .success)
    (hnobody : (handle pool now m).1.name = "") : m.kind = .stop := by
  have hheld : m.kind = .keepAlive ∨ m.kind = .closePort → m.name ≠ "" := by
    intro hkind hname
    rw [handle_held_nobody h hnamed hname hkind] at hsuccess
    cases hsuccess
  have hlookup : m.kind = .lookupPort → m.name ≠ "" := by
    intro hkind hname
    rw [handle_lookup_nobody h hnamed hname hkind] at hsuccess
    cases hsuccess
  have hgives := gives_handle pool now m
  generalize (handle pool now m).1 = reply at hsuccess hnobody hgives
  cases hgives with
  | stopping hkind => exact hkind
  | granted hkind hname port => exact absurd hnobody hname
  | held hkind outcome => exact absurd hnobody (hheld hkind)
  | found hkind port => exact absurd hnobody (hlookup hkind)
  | undefined => cases hsuccess
  | allBusy => cases hsuccess
  | missing => cases hsuccess

/-- **Nobody holds a port.** Whatever messages a service has handled, and whenever they
came, every holder has a name. So whoever asks without one is told that there is no such
lease, and nothing changes but that the pool is swept for a lookup; a port that is asked
for in nobody's name is an undefined request, and nothing changes; and a success without
a name is said in reply to a `STOP`, and to nothing else. -/
theorem nobody_holds_a_port (hnew : Pool.new first last timeout = .ok new)
    (before : List (Instant × Message)) :
    let pool := (handleAll new before).2
    (∀ slot ∈ pool.slots, ∀ holder, slot.holder = some holder → holder.name ≠ "")
    ∧ (∀ now m, m.name = "" →
        (m.kind = .keepAlive ∨ m.kind = .closePort →
          handle pool now m = (.response "" m.port .serviceNotFound, pool))
        ∧ (m.kind = .lookupPort →
          handle pool now m = (.response "" 0 .serviceNotFound, pool.sweep now))
        ∧ (m.kind = .requestPort →
          handle pool now m = (.response "" 0 .undefinedError, pool)))
    ∧ ∀ now m, ((handle pool now m).1.status = .success ∧ (handle pool now m).1.name = "")
        ↔ m.kind = .stop := by
  intro pool
  have hlaid : pool.IsLaidOut := isLaidOut_handleAll (Pool.isLaidOut_of_new hnew) before
  have hnamed : pool.register.IsNamed := isNamed_handleAll hnew before
  refine ⟨fun slot hslot holder hholder => ?_, fun now m hname =>
    ⟨handle_held_nobody hlaid hnamed hname, handle_lookup_nobody hlaid hnamed hname,
      fun hkind => handle_of_undefined (.inr ⟨hkind, hname⟩) pool now⟩, fun now m =>
    ⟨fun hreply => kind_eq_stop hlaid hnamed hreply.1 hreply.2, fun hkind => ?_⟩⟩
  · rw [← hlaid.holder?_port hslot] at hholder
    exact hnamed slot.port holder hholder
  · rw [handle, hkind]
    exact ⟨rfl, rfl⟩

/-- A service that is asked for a port by somebody and by nobody, and then by nobody
for the port of the former. -/
theorem nobody_holds_a_port_of_another :
    ∃ new, Pool.new 40000 40001 ⟨5⟩ = .ok new
      ∧ let pool := (handleAll new [(1, .request .requestPort "printer" 0),
          (2, .request .requestPort "" 0), (3, .request .keepAlive "printer" 40000)]).2
        pool.leases = [(40000, "printer")]
        ∧ handle pool 4 (.request .closePort "" 40000)
          = (.response "" 40000 .serviceNotFound, pool)
        ∧ (handle pool 9 (.request .lookupPort "" 0)).2.leases = []
        ∧ (handle pool 4 (.request .stop "" 0)).1.status = .success := by
  refine ⟨⟨40000, 40001, ⟨5⟩, Pool.freeSlots 40000 40001, 0, false⟩, rfl, ?_⟩
  intro pool
  obtain ⟨-, hnobody, hstop⟩ := nobody_holds_a_port
    (rfl : Pool.new 40000 40001 ⟨5⟩ = .ok _)
    [(1, .request .requestPort "printer" 0), (2, .request .requestPort "" 0),
      (3, .request .keepAlive "printer" 40000)]
  refine ⟨by decide, (hnobody 4 (.request .closePort "" 40000) rfl).1 (.inr rfl), ?_,
    ((hstop 4 (.request .stop "" 0)).mpr rfl).1⟩
  rw [(hnobody 9 (.request .lookupPort "" 0) rfl).2.1 rfl]
  decide

end Service

end Moorings.Lease
