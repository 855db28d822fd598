import Moorings.Proofs.Lease.Exclusivity
import Moorings.Proofs.Lease.Operations

/-!
# The port in a reply

A reply has a port even if there is none to be told of, and then the port is 0. Whether
there is one is told by the status as well, and for whoever asks for a port or looks one
up the two should agree.

They do, if the range of the service has no port 0. A refusal always has the port 0, and
a success has a port of the range that is held, right after the reply, by the name in the
reply and by no other (`Service.tellsPort_handle`). But nothing keeps a range from beginning
at 0: settings are refused only if the range is upside down or a lease lasts no time. The
first port of such a range is the first to be given out, and is then told in a reply that
looks like one without a port. So the two agree exactly if the range does not begin at 0
(`Service.port_tells_status_iff`).
-/

namespace Moorings

/-- Settings that are accepted have a port at least. -/
theorem Settings.LeaseService.first_le_last {settings : Settings.LeaseService}
    (hvalid : settings.validate = .ok ()) : settings.first ≤ settings.last := by
  unfold validate at hvalid
  split at hvalid
  · cases hvalid
  · rename_i hle
    exact UInt16.not_lt.mp hle

namespace Lease

namespace Register

/-- The first port of the range is the first to be granted. -/
theorem allocate_empty {first last : UInt16} (timeout : Span) (hle : first ≤ last)
    (name : String) (now : Instant) :
    ((Register.empty first last timeout).allocate name now).1 = .granted first := by
  have hlength : last.toNat + 1 - first.toNat = last.toNat - first.toNat + 1 := by
    rw [UInt16.le_iff_toNat_le] at hle
    omega
  have hlowest : ((Register.empty first last timeout).sweep now).lowest? Option.isNone
      = some first := by
    rw [lowest?_eq_find?]
    show (portsOf first last).find? _ = _
    rw [portsOf, hlength, List.range'_succ, List.map_cons]
    exact (List.find?_cons_of_pos rfl).trans (congrArg some first.ofNat_toNat)
  unfold allocate
  rw [hlowest]

end Register

namespace Pool

variable {p : Pool}

/-- **A port that is looked up is held** by the one who is asked for. -/
theorem IsLaidOut.holder?_of_found (h : p.IsLaidOut) {name : String} {now : Instant}
    {port : UInt16} (hfound : (p.lookup name now).1 = some port) :
    ∃ holder, (p.sweep now).holder? port = some holder ∧ holder.name = name := by
  have hlookup := congrArg Prod.fst (h.lookup_register name now)
  change (p.lookup name now).1 = _ at hlookup
  rw [hfound] at hlookup
  have hheld := Register.of_lowest? hlookup.symm
  rw [← register_sweep] at hheld
  obtain ⟨holder, hholder, hname⟩ := (Option.any_eq_true _ _).mp hheld
  exact ⟨holder, hholder, of_decide_eq_true hname⟩

end Pool

namespace Service

/-- **What a reply tells of a port**: none, if it is a refusal, or one that is held by
the name in the reply. -/
inductive TellsPort (after : Pool) : Message → Prop
  | refused (name : String) {status : Status} (h : status ≠ .success) :
    TellsPort after (.response name 0 status)
  | held {port : UInt16} {holder : Holder} (h : after.holder? port = some holder) :
    TellsPort after (.response holder.name port .success)

variable {pool : Pool} {now : Instant} {m : Message}

/-- The reply to one who asks for a port. -/
theorem tellsPort_of_requestPort (h : pool.IsLaidOut) (hkind : m.kind = .requestPort) :
    TellsPort (handle pool now m).2 (handle pool now m).1 := by
  by_cases hname : m.name = ""
  · have hnone : operation? now m = none := by
      rw [operation?, hkind]
      exact if_pos hname
    rw [handle_eq, hnone]
    exact .refused "" nofun
  · have hop : operation? now m = some (.allocate m.name now) := by
      rw [operation?, hkind]
      exact if_neg hname
    rw [handle_of_operation? hop]
    show TellsPort (pool.allocate m.name now).2
      (replyOf m (.grant (pool.allocate m.name now).1))
    cases hgrant : (pool.allocate m.name now).1 with
    | allBusy => exact .refused m.name nofun
    | granted port =>
      have hholder : (pool.allocate m.name now).2.holder? port
          = some { name := m.name, renewed := now } :=
        h.holder?_of_granted (Prod.ext (congrArg Pool.Answer.grant hgrant) rfl)
      exact .held hholder

/-- The reply to one who looks a port up. -/
theorem tellsPort_of_lookupPort (h : pool.IsLaidOut) (hkind : m.kind = .lookupPort) :
    TellsPort (handle pool now m).2 (handle pool now m).1 := by
  have hop : operation? now m = some (.lookup m.name now) := by rw [operation?, hkind]
  rw [handle_of_operation? hop]
  show TellsPort (pool.sweep now) (replyOf m (.found (pool.lookup m.name now).1))
  cases hfound : (pool.lookup m.name now).1 with
  | none => exact .refused m.name nofun
  | some port =>
    obtain ⟨holder, hholder, hname⟩ := h.holder?_of_found hfound
    show TellsPort (pool.sweep now) (.response m.name port .success)
    rw [← hname]
    exact .held hholder

/-- **The reply to one who wants a port** tells it, or that there is none. -/
theorem tellsPort_handle (h : pool.IsLaidOut)
    (hkind : m.kind = .requestPort ∨ m.kind = .lookupPort) :
    TellsPort (handle pool now m).2 (handle pool now m).1 :=
  hkind.elim (tellsPort_of_requestPort h) (tellsPort_of_lookupPort h)

namespace TellsPort

variable {after : Pool} {reply : Message}

/-- No port is told of in a refusal. -/
theorem port_eq_zero (h : TellsPort after reply) (hstatus : reply.status ≠ .success) :
    reply.port = 0 := by
  cases h with
  | refused => rfl
  | held => exact absurd rfl hstatus

/-- **A port that is told of** is in the range, and is held by the name in the reply and by
no other. -/
theorem mem_leases_iff_eq_name (h : TellsPort after reply) (hafter : after.IsLaidOut)
    (hstatus : reply.status = .success) :
    after.first ≤ reply.port ∧ reply.port ≤ after.last
      ∧ ∀ name, (reply.port, name) ∈ after.leases ↔ name = reply.name := by
  cases h with
  | refused name hrefused => exact absurd hstatus hrefused
  | held hholder =>
    obtain ⟨hfirst, hlast⟩ := hafter.mem_range_of_holder? hholder
    exact ⟨hfirst, hlast, hafter.mem_leases_of_holder? hholder⟩

/-- **So a port that is told of is told from none**, unless the range begins at 0. -/
theorem port_ne_zero_iff (h : TellsPort after reply) (hafter : after.IsLaidOut)
    (hfirst : after.first ≠ 0) : reply.port ≠ 0 ↔ reply.status = .success := by
  refine ⟨fun hport => ?_, fun hstatus hzero => hfirst ?_⟩
  · by_contra hstatus
    exact hport (h.port_eq_zero hstatus)
  · obtain ⟨hle, -, -⟩ := h.mem_leases_iff_eq_name hafter hstatus
    exact UInt16.le_zero_iff.mp (hzero ▸ hle)

end TellsPort

/-- The first reply of a service to one who asks for a port has the first port of the
range. -/
theorem handle_new {first last : UInt16} {timeout : Span} {new : Pool}
    (hnew : Pool.new first last timeout = .ok new) {name : String} (hname : name ≠ "")
    (now : Instant) :
    (handle new now (.request .requestPort name 0)).1 = .response name first .success := by
  have hlaid := Pool.isLaidOut_of_new hnew
  have hregister := Pool.register_of_new hnew
  have hle : new.register.first ≤ new.register.last := hlaid.ordered
  have hgrant : (new.allocate name now).1 = .granted first := by
    rw [hregister] at hle
    refine (congrArg Prod.fst (hlaid.allocate_register name now)).trans ?_
    rw [hregister]
    exact Register.allocate_empty timeout hle name now
  have hop : operation? now (.request .requestPort name 0) = some (.allocate name now) :=
    if_neg hname
  rw [handle_of_operation? hop]
  show replyOf _ (.grant (new.allocate name now).1) = _
  rw [hgrant]
  rfl

/-- **The port in a reply means what it should**, exactly if the range of the service
does not begin at 0. For every service whose settings are accepted, whatever messages
it has handled: who asks for a port or looks one up is told the port 0 in a refusal, and
in a success a port of the range that is held, right after the reply, by the name in the
reply and by no other. That a port other than 0 is told in every success, and so tells
it from a refusal, holds if the range does not begin at 0, and does not if it does. -/
theorem port_tells_status_iff {settings : Settings.LeaseService}
    (hvalid : settings.validate = .ok ()) :
    ∃ new, Pool.new settings.first settings.last settings.timeout = .ok new
      ∧ (∀ (before : List (Instant × Message)) (now : Instant) (m : Message),
          m.kind = .requestPort ∨ m.kind = .lookupPort →
          let pool := (handleAll new before).2
          let reply := (handle pool now m).1
          let after := (handle pool now m).2
          (reply.status ≠ .success → reply.port = 0)
          ∧ (reply.status = .success →
              settings.first ≤ reply.port ∧ reply.port ≤ settings.last
              ∧ ∀ name, (reply.port, name) ∈ after.leases ↔ name = reply.name))
      ∧ ((∀ (before : List (Instant × Message)) (now : Instant) (m : Message),
            m.kind = .requestPort ∨ m.kind = .lookupPort →
            let reply := (handle (handleAll new before).2 now m).1
            (reply.port ≠ 0 ↔ reply.status = .success))
          ↔ settings.first ≠ 0) := by
  have hle := settings.first_le_last hvalid
  obtain ⟨new, hnew⟩ : ∃ p, Pool.new settings.first settings.last settings.timeout = .ok p :=
    ⟨_, if_neg (UInt16.not_lt.mpr hle)⟩
  have hlaid := Pool.isLaidOut_of_new hnew
  have hregister := Pool.register_of_new hnew
  -- the pool after any messages, and so the one after a reply, has the ports of the settings
  have hpool : ∀ ms, (handleAll new ms).2.IsLaidOut := isLaidOut_handleAll hlaid
  have hafter : ∀ before now m,
      let after := (handle (handleAll new before).2 now m).2
      after.IsLaidOut ∧ after.first = settings.first ∧ after.last = settings.last := by
    intro before now m
    have hrange := range_handleAll hlaid before
    have hstep := range_handleAll (hpool before) [(now, m)]
    refine ⟨isLaidOut_handleAll (hpool before) [(now, m)], ?_, ?_⟩
    · exact (hstep.1.trans hrange.1).trans (congrArg Register.first hregister)
    · exact (hstep.2.trans hrange.2).trans (congrArg Register.last hregister)
  refine ⟨new, hnew, fun before now m hkind => ?_, fun hall hzero => ?_,
    fun hne before now m hkind => ?_⟩
  · intro pool reply after
    have htells : TellsPort after reply := tellsPort_handle (hpool before) hkind
    obtain ⟨hlaid, hfirst, hlast⟩ := hafter before now m
    refine ⟨htells.port_eq_zero, fun hstatus => ?_⟩
    rw [← hfirst, ← hlast]
    exact htells.mem_leases_iff_eq_name hlaid hstatus
  · have hreply := handle_new hnew (show "printer" ≠ "" by decide) 0
    have hport := hall [] 0 (.request .requestPort "printer" 0) (.inl rfl)
    change (handle new 0 _).1.port ≠ 0 ↔ (handle new 0 _).1.status = .success at hport
    rw [hreply] at hport
    exact hport.mpr rfl hzero
  · obtain ⟨hlaid, hfirst, -⟩ := hafter before now m
    exact (tellsPort_handle (hpool before) hkind).port_ne_zero_iff hlaid (hfirst ▸ hne)

/-- The only port of a range, given out, looked up, and asked for by another. -/
theorem port_tells_status_iff_of_one :
    let settings : Settings.LeaseService := { first := 40000, last := 40000 }
    settings.validate = .ok ()
      ∧ ∃ new, Pool.new settings.first settings.last settings.timeout = .ok new
        ∧ let pool := (handleAll new [(0, .request .requestPort "printer" 0)]).2
          let found := handle pool 1 (.request .lookupPort "printer" 0)
          let refused := handle pool 1 (.request .requestPort "scanner" 0)
          found.1 = .response "printer" 40000 .success
          ∧ (∀ name, (40000, name) ∈ found.2.leases ↔ name = "printer")
          ∧ refused.1.status = .allPortsBusy ∧ refused.1.port = 0 := by
  intro settings
  have hvalid : settings.validate = .ok () := rfl
  obtain ⟨new, hnew, hreplies, -⟩ := port_tells_status_iff hvalid
  refine ⟨hvalid, new, hnew, ?_⟩
  intro pool found refused
  have hreply : found.1 = .response "printer" 40000 .success := by
    cases hnew
    decide
  have hbusy : refused.1.status = .allPortsBusy := by
    cases hnew
    decide
  have hbefore := hreplies [(0, .request .requestPort "printer" 0)] 1
  have hfound : found.1.status = .success →
      ∀ name, (found.1.port, name) ∈ found.2.leases ↔ name = found.1.name := fun hstatus =>
    ((hbefore (.request .lookupPort "printer" 0) (.inr rfl)).2 hstatus).2.2
  have hrefused : refused.1.status ≠ .success → refused.1.port = 0 :=
    (hbefore (.request .requestPort "scanner" 0) (.inl rfl)).1
  rw [hreply] at hfound
  rw [hbusy] at hrefused
  exact ⟨hreply, hfound rfl, hbusy, hrefused nofun⟩

/-- **A port 0 that is given out.** The settings are accepted, and the first reply is a
success whose port says that there is none. -/
theorem success_without_port :
    let settings : Settings.LeaseService := { first := 0, last := 1 }
    settings.validate = .ok ()
      ∧ ∃ new, Pool.new settings.first settings.last settings.timeout = .ok new
        ∧ let reply := (handle new 0 (.request .requestPort "printer" 0)).1
          reply.status = .success ∧ reply.port = 0
          ∧ ¬(reply.port ≠ 0 ↔ reply.status = .success) :=
  ⟨rfl, _, rfl, by decide, by decide, by decide⟩

end Service

end Lease

end Moorings
