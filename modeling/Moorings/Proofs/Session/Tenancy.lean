import Moorings.Session.Leased
import Moorings.Proofs.Lease.Delivery
import Moorings.Proofs.Lease.Register
import Moorings.Proofs.Lease.Sweeping

/-!
# A port that is given back

A session server takes a port from the lease service before it knows whether it can
listen there, renews its lease while it serves, and gives the port back at its end. The
port is given back in two places, and it must not be forgotten in any of them.

What is given back is what has been taken, and nothing else. A grant changes one slot,
the lowest that is free, and moves the place of the lowest free slot up. A renewal
changes the time in this slot, so a pool with a grant that has been renewed is a pool
with a later grant (`Lease.Pool.IsLaidOut.renew_grant`), and a release takes all of it
back (`Lease.Pool.IsLaidOut.release_grant`). So after the server the pool is not only
one with the same leases but the very same pool (`Leased.run_gives_back`), whatever the
name is and whoever else has leases under it.
-/

namespace Moorings.Lease

namespace Pool

variable {p : Pool}

section Grant

variable {slot : Slot} (name : String) (heard : Instant)

/-- The slot that has been given out. -/
theorem IsLaidOut.getElem?_grant (h : p.IsLaidOut)
    (hfree : p.slots.find? Slot.isFree = some slot) :
    (p.grant slot name heard).slots[p.lowestFree]? = some (slot.reserve name heard) := by
  rw [h.find?_isFree] at hfree
  exact List.getElem?_set_self (List.getElem?_eq_some_iff.mp hfree).1

/-- The port has nobody's name before it is given out. -/
theorem IsLaidOut.notMem_leases_of_isFree (h : p.IsLaidOut)
    (hfree : p.slots.find? Slot.isFree = some slot) (name : String) :
    (slot.port, name) ∉ p.leases := by
  have hisFree : slot.isFree = true := List.find?_some hfree
  rw [h.mem_leases, h.holder?_port (List.mem_of_find?_eq_some hfree),
    Option.isNone_iff_eq_none.mp hisFree]
  exact Bool.false_ne_true

/-- And then it has the name that it is given out to. -/
theorem IsLaidOut.mem_leases_grant (h : p.IsLaidOut)
    (hfree : p.slots.find? Slot.isFree = some slot) :
    (slot.port, name) ∈ (p.grant slot name heard).leases :=
  List.mem_filterMap.mpr
    ⟨_, List.mem_of_getElem? (h.getElem?_grant name heard hfree), rfl⟩

theorem IsLaidOut.heldAt?_grant (h : p.IsLaidOut)
    (hfree : p.slots.find? Slot.isFree = some slot) :
    (p.grant slot name heard).heldAt? slot.port name = some p.lowestFree := by
  have hheld : (slot.reserve name heard).isHeldBy name = true := decide_eq_true rfl
  have hport := (h.grant hfree name heard).heldAt?_port (h.getElem?_grant name heard hfree) name
  rwa [if_pos hheld] at hport

/-- **A grant that is renewed is a later grant.** -/
theorem IsLaidOut.renew_grant (h : p.IsLaidOut)
    (hfree : p.slots.find? Slot.isFree = some slot) (now : Instant) :
    (p.grant slot name heard).renew slot.port name now = (.ok, p.grant slot name now) := by
  have hslots : (p.grant slot name heard).slots.modify p.lowestFree (·.renew now)
      = p.slots.set p.lowestFree (slot.reserve name now) := by
    rw [← set_eq_modify (h.getElem?_grant name heard hfree)]
    exact List.set_set _
  -- the search for the next free slot begins after the one that has been given out
  have hnext : ∀ t : Instant,
      nextFree (p.slots.set p.lowestFree (slot.reserve name t)) (p.lowestFree + 1)
        = nextFree p.slots (p.lowestFree + 1) := fun t => by
    rw [nextFree, List.drop_set_of_lt (Nat.lt_succ_self _), nextFree]
  unfold Pool.renew
  rw [h.heldAt?_grant name heard hfree]
  dsimp only
  rw [hslots]
  simp only [Pool.grant, hnext]

/-- **A release takes a grant back.** -/
theorem IsLaidOut.release_grant (h : p.IsLaidOut)
    (hfree : p.slots.find? Slot.isFree = some slot) :
    (p.grant slot name heard).release slot.port name = (.ok, p) := by
  have hslot : (slot.reserve name heard).release = slot := by
    have hisFree : slot.isFree = true := List.find?_some hfree
    obtain ⟨port, holder⟩ := slot
    obtain rfl : holder = none := Option.isNone_iff_eq_none.mp hisFree
    rfl
  have hslots : (p.grant slot name heard).slots.modify p.lowestFree Slot.release = p.slots := by
    rw [← set_eq_modify (h.getElem?_grant name heard hfree), hslot]
    refine (List.set_set _).trans ?_
    rw [h.find?_isFree] at hfree
    obtain ⟨hlt, rfl⟩ := List.getElem?_eq_some_iff.mp hfree
    exact List.set_getElem_self hlt
  have hlowest : min p.lowestFree (p.grant slot name heard).lowestFree = p.lowestFree :=
    Nat.min_eq_left (Nat.le_trans (Nat.le_succ _) (Nat.le_add_right _ _))
  unfold Pool.release
  rw [h.heldAt?_grant name heard hfree]
  dsimp only
  rw [hslots, hlowest]
  rfl

end Grant

end Pool

/-! ## Asking for it -/

namespace Client

variable {c : Client} {p : Pool} {slot : Slot} {heard : Instant}

/-- **A call that is answered at once**: what it asks for is done, and its caller is told
of it. -/
theorem ask_eq (hname : checkServiceName c.name = .ok ()) (pool : Pool) (now : Instant)
    (call : Call) :
    c.ask pool now call = Prod.map (call.told c.name) id (call.operate pool c.name now) := by
  have hrequest : checkServiceName (call.request c.name).name = .ok () :=
    Call.check_request hname call
  have hgives := Service.gives_answer_encode hrequest pool now
  have hverdict : verdict (call.request c.name)
      (Service.answer pool now (call.request c.name).encode).1.encode = some (.ok _) :=
    verdict_eq_ok_iff.mpr ⟨Message.decode_received_encode (hgives.check_name hrequest),
      hgives.kind_eq, hgives.answers_eq Call.name_request_of_stop⟩
  rw [← Call.handle_request, ← Service.answer_encode hrequest]
  unfold ask
  dsimp only
  rw [await_fst, List.findSome?_cons, hverdict]
  rfl

/-- One that holds a port goes on holding it. -/
theorem ask_keepAlive (hname : checkServiceName c.name = .ok ()) (h : p.IsLaidOut)
    (hfree : p.slots.find? Slot.isFree = some slot) (now : Instant) :
    c.ask (p.grant slot c.name heard) now (.keepAlive slot.port)
      = (.ok (.response c.name slot.port .success), p.grant slot c.name now) := by
  rw [ask_eq hname]
  simp only [Call.operate, h.renew_grant c.name heard hfree]
  rfl

/-- Or gives it back. -/
theorem ask_closePort (hname : checkServiceName c.name = .ok ()) (h : p.IsLaidOut)
    (hfree : p.slots.find? Slot.isFree = some slot) (now : Instant) :
    c.ask (p.grant slot c.name heard) now (.closePort slot.port)
      = (.ok (.response c.name slot.port .success), p) := by
  rw [ask_eq hname]
  simp only [Call.operate, h.release_grant c.name heard hfree]
  rfl

/-- One that holds none is given the lowest that is free, if there is one. -/
theorem ask_requestPort (hname : checkServiceName c.name = .ok ()) (h : p.IsLaidOut)
    {now : Instant} (hkept : ∀ slot ∈ p.slots, slot.isExpired p.timeout now = false) :
    (∃ error, c.ask p now .requestPort = (.error error, p))
      ∨ ∃ slot, p.slots.find? Slot.isFree = some slot
        ∧ c.ask p now .requestPort
          = (.ok (.response c.name slot.port .success), p.grant slot c.name now) := by
  rw [ask_eq hname]
  simp only [Call.operate, h.allocate_eq, Pool.sweep_eq_self hkept]
  split
  · exact .inl ⟨_, rfl⟩
  · cases hfree : p.slots.find? Slot.isFree with
    | none => exact .inl ⟨_, rfl⟩
    | some slot => exact .inr ⟨slot, rfl, rfl⟩

/-- A client has a name that it may have. -/
theorem name_of_connect {opened : Except Net.SystemError Unit} {name : String}
    {patience : Span} (h : connect opened name patience = .ok c) :
    checkServiceName c.name = .ok () ∧ c.name = name := by
  unfold connect at h
  split at h
  · cases h
  · cases h
  · rename_i hname
    cases h
    exact ⟨hname, rfl⟩

end Client

end Moorings.Lease

namespace Moorings.Session

namespace Leased

open Net (SystemError)
open Lease (Pool Slot checkServiceName)

variable {p : Pool}

/-- **How a server starts**: not at all, and then nothing is taken, or with the lowest port
that is free. -/
theorem start_cases (h : p.IsLaidOut) {now : Instant}
    (hkept : ∀ slot ∈ p.slots, slot.isExpired p.timeout now = false)
    (settings : Settings.SessionServer) (opened : Except SystemError Unit)
    (bound : UInt16 → Except SystemError Unit) :
    (∃ error, start settings opened bound p now = (.error error, p))
      ∨ ∃ tenant slot, checkServiceName tenant.name = .ok () ∧ tenant.name = settings.serviceName
        ∧ p.slots.find? Slot.isFree = some slot
        ∧ start settings opened bound p now
          = (.ok { tenant, port := slot.port }, p.grant slot tenant.name now) := by
  unfold start
  cases hconnect : Lease.Client.connect opened settings.serviceName settings.patience with
  | error error => exact .inl ⟨_, rfl⟩
  | ok tenant =>
    obtain ⟨hname, htenant⟩ := Lease.Client.name_of_connect hconnect
    dsimp only
    obtain ⟨error, hask⟩ | ⟨slot, hfree, hask⟩ := Lease.Client.ask_requestPort hname h hkept
    · rw [hask]
      exact .inl ⟨_, rfl⟩
    · simp only [hask, Lease.Message.response]
      cases hbound : bound slot.port with
      | ok _ => exact .inr ⟨tenant, slot, hname, htenant, hfree, rfl⟩
      | error error =>
        -- the port has been taken, and is given back at once
        simp only [Lease.Client.ask_closePort hname h hfree now]
        exact .inl ⟨_, rfl⟩

/-- **While a server serves**, it holds its port, and nothing else changes in the pool but
the time when it was last heard of. -/
theorem serve_grant (h : p.IsLaidOut) {slot : Slot}
    (hfree : p.slots.find? Slot.isFree = some slot) {tenant : Lease.Client}
    (hname : checkServiceName tenant.name = .ok ()) (server : Server) (patience : Span)
    (isLost : Bool) (heard : Instant) (deeds : List Deed) :
    ∃ served last, ({ tenant, port := slot.port, server } : Leased).serve patience isLost
        (p.grant slot tenant.name heard) deeds
      = ({ tenant, port := slot.port, server := served }, p.grant slot tenant.name last) := by
  induction deeds generalizing server isLost heard with
  | nil => exact ⟨server, heard, rfl⟩
  | cons deed deeds ih =>
    cases deed with
    | renewal now =>
      unfold serve
      split
      · exact ih server isLost heard
      · simp only [renew, Lease.Client.ask_keepAlive hname h hfree now]
        exact ih server _ now
    | step step => exact ih _ isLost heard

/-- So the port is its own as long as it serves, and was nobody's before. -/
theorem holds_port (h : p.IsLaidOut) {now : Instant}
    (hkept : ∀ slot ∈ p.slots, slot.isExpired p.timeout now = false)
    {settings : Settings.SessionServer} {opened : Except SystemError Unit}
    {bound : UInt16 → Except SystemError Unit} {leased : Leased} {held : Pool}
    (hstart : start settings opened bound p now = (.ok leased, held)) (patience : Span)
    (deeds : List Deed) :
    (leased.port, settings.serviceName) ∈ (leased.serve patience false held deeds).2.leases
      ∧ ∀ name, (leased.port, name) ∉ p.leases := by
  obtain ⟨error, hnone⟩ | ⟨tenant, slot, hname, htenant, hfree, hsome⟩ :=
    start_cases h hkept settings opened bound
  · cases hstart.symm.trans hnone
  · cases hstart.symm.trans hsome
    obtain ⟨served, last, hserve⟩ := serve_grant h hfree hname {} patience false now deeds
    rw [hserve, ← htenant]
    exact ⟨h.mem_leases_grant tenant.name last hfree, h.notMem_leases_of_isFree hfree⟩

/-- **A server gives its port back**, whether it has served or has found that it cannot
listen there, however often it has renewed its lease, and whatever its clients have done.
If nobody's lease has run out when it asks for the port, then the pool after it is the
pool before it, and so everybody else has kept their leases, those under the same name
too. -/
theorem run_gives_back {first last : UInt16} {timeout : Span} {new : Pool}
    (hnew : Pool.new first last timeout = .ok new) (before : List Pool.Op) {now : Instant}
    (hkept : ∀ slot ∈ (new.run before).2.slots,
      slot.isExpired (new.run before).2.timeout now = false)
    (settings : Settings.SessionServer) (opened : Except SystemError Unit)
    (bound : UInt16 → Except SystemError Unit) (patience : Span) (deeds : List Deed)
    (later : Instant) :
    (run settings opened bound patience (new.run before).2 now deeds later).2
      = (new.run before).2 := by
  have h : (new.run before).2.IsLaidOut := (Pool.isLaidOut_of_new hnew).run before
  generalize (new.run before).2 = p at h hkept
  unfold run
  obtain ⟨error, hstart⟩ | ⟨tenant, slot, hname, -, hfree, hstart⟩ :=
    start_cases h hkept settings opened bound
  · rw [hstart]
  · obtain ⟨served, last, hserve⟩ := serve_grant h hfree hname {} patience false now deeds
    have hstop : tenant.ask (p.grant slot tenant.name last) later (.closePort slot.port) = _ :=
      Lease.Client.ask_closePort hname h hfree later
    rw [hstart]
    dsimp only
    rw [hserve]
    simp only [stop, hstop]

/-- Two leases under the name of the server, and between them the port that it is given.
It serves there, or finds that somebody else listens there. -/
theorem run_gives_back_between_two :
    let new : Pool :=
      { first := 40000, last := 40002, timeout := .ofSeconds 300
        slots := Pool.freeSlots 40000 40002, lowestFree := 0, stopped := false }
    let p := (new.run [.allocate "SD Server" 0, .allocate "printer" 1, .allocate "SD Server" 2,
      .release 40001 "printer"]).2
    p.leases = [(40000, "SD Server"), (40002, "SD Server")]
      ∧ (start {} (.ok ()) (fun _ => .ok ()) p 3).2.leases
        = [(40000, "SD Server"), (40001, "SD Server"), (40002, "SD Server")]
      ∧ (run {} (.ok ()) (fun _ => .ok ()) (.ofSeconds 5) p 3
        [.renewal 60, .step (.call 0 .openSession), .renewal 120] 130).2 = p
      ∧ (run {} (.ok ()) (fun _ => .error .addressInUse) (.ofSeconds 5) p 3 [] 3).2 = p := by
  intro new p
  have hnew : Pool.new 40000 40002 (.ofSeconds 300) = .ok new := rfl
  have hkept : ∀ slot ∈ p.slots, slot.isExpired p.timeout 3 = false := by decide
  exact ⟨by decide, by decide +kernel, run_gives_back hnew _ hkept _ _ _ _ _ _,
    run_gives_back hnew _ hkept _ _ _ _ _ _⟩

end Leased

end Moorings.Session
