import Moorings.Proofs.Lease.Layout
import Mathlib.Order.Interval.Finset.Nat
import Mathlib.Data.Finset.Max
import Mathlib.Logic.Function.Basic

/-!
# A pool keeps a register

All that can be told from the answers of a pool is who holds which port, and
since when nothing was heard of the holder. A `Register` is just that: a map
from the ports of the range to their holders. It has no slots, no positions
and no place where the lowest free port is remembered. Whenever a port is
looked for, it is the least of a finite set of numbers.

`Pool.register` reads off a pool what it holds. Every operation of a pool
answers what the same operation of its register answers, and leaves a pool
whose register is the one that this operation leaves (`register_step`). So
whole histories of the two give the same answers (`register_run`), and what is
to be shown of the answers of a pool can be shown of a register, which has far
less in it.

Two facts carry this. The slots of a pool that is laid out are the ports of the
range in order, so the first slot of a kind has the least port of that kind
(`find?_slots`), and there are as many such slots as ports (`countP_slots`).
And a slot changed changes what its own port maps to and nothing else
(`holder?_modify`).
-/

namespace Moorings.Lease

/-- Whether the holder has been silent for `timeout` or longer. -/
def Holder.isSilent (timeout : Span) (now : Instant) (holder : Holder) : Bool :=
  timeout.nanos ≤ (Instant.since now holder.renewed).nanos

/-- **The ports of a range and their holders**, and nothing else. -/
@[ext] structure Register where
  /-- The first port of the range. -/
  first : UInt16
  /-- The last port of the range. -/
  last : UInt16
  /-- How long a lease lasts without a word from its holder. -/
  timeout : Span
  /-- Who holds a port. -/
  holders : UInt16 → Option Holder

namespace Register

/-- A register in which every port is free. -/
def empty (first last : UInt16) (timeout : Span) : Register :=
  { first, last, timeout, holders := fun _ => none }

/-- The ports of the range of a kind, which depends on their holders. -/
def portsWith (r : Register) (q : Option Holder → Bool) : Finset Nat :=
  (Finset.Icc r.first.toNat r.last.toNat).filter fun n => q (r.holders n.toUInt16)

/-- The numerically smallest port of a kind. -/
def lowest? (r : Register) (q : Option Holder → Bool) : Option UInt16 :=
  if h : (r.portsWith q).Nonempty then some ((r.portsWith q).min' h).toUInt16 else none

/-- Every entry removed whose holder is silent, and the number of them. -/
def expire (r : Register) (now : Instant) : Nat × Register :=
  ((r.portsWith (·.any (Holder.isSilent r.timeout now))).card,
    { r with holders := fun port =>
        (r.holders port).filter fun holder => !holder.isSilent r.timeout now })

/-- The register after a sweep. -/
def sweep (r : Register) (now : Instant) : Register := (r.expire now).2

/-- The smallest port without an entry given to `name`, after a sweep. -/
def allocate (r : Register) (name : String) (now : Instant) : Grant × Register :=
  match (r.sweep now).lowest? Option.isNone with
  | none => (.allBusy, r.sweep now)
  | some port =>
    (.granted port,
      { r.sweep now with
        holders :=
          Function.update (r.sweep now).holders port (some { name, renewed := now }) })

/-- The entry of `port` renewed, if it is one of `name`. -/
def renew (r : Register) (port : UInt16) (name : String) (now : Instant) :
    Outcome × Register :=
  if (r.holders port).any (·.name = name) then
    (.ok, { r with holders := Function.update r.holders port (some { name, renewed := now }) })
  else (.notFound, r)

/-- The entry of `port` removed, if it is one of `name`. -/
def release (r : Register) (port : UInt16) (name : String) : Outcome × Register :=
  if (r.holders port).any (·.name = name) then
    (.ok, { r with holders := Function.update r.holders port none })
  else (.notFound, r)

/-- The smallest port with an entry of `name`, after a sweep. -/
def lookup (r : Register) (name : String) (now : Instant) : Option UInt16 × Register :=
  ((r.sweep now).lowest? (·.any (·.name = name)), r.sweep now)

/-- One operation performed. A register knows of no stopping. -/
def step (r : Register) : Pool.Op → Pool.Answer × Register
  | .allocate name now => ((.grant (r.allocate name now).1), (r.allocate name now).2)
  | .renew port name now => (.outcome (r.renew port name now).1, (r.renew port name now).2)
  | .release port name => (.outcome (r.release port name).1, (r.release port name).2)
  | .lookup name now => (.found (r.lookup name now).1, (r.lookup name now).2)
  | .expire now => (.reclaimed (r.expire now).1, (r.expire now).2)
  | .stop => (.done, r)

/-- The operations performed one after another, with their answers. -/
def run (r : Register) : List Pool.Op → List Pool.Answer × Register
  | [] => ([], r)
  | op :: ops =>
    ((r.step op).1 :: ((r.step op).2.run ops).1, ((r.step op).2.run ops).2)

theorem mem_portsWith {r : Register} {q : Option Holder → Bool} {n : Nat} :
    n ∈ r.portsWith q
      ↔ (r.first.toNat ≤ n ∧ n ≤ r.last.toNat) ∧ q (r.holders n.toUInt16) = true := by
  rw [portsWith, Finset.mem_filter, Finset.mem_Icc]

/-- An operation changes who holds the ports, and nothing else. -/
theorem step_eq (r : Register) (op : Pool.Op) :
    ∃ holders, (r.step op).2 = { r with holders } := by
  cases op with
  | allocate name now =>
    show ∃ holders, (r.allocate name now).2 = { r with holders }
    unfold allocate
    split <;> exact ⟨_, rfl⟩
  | renew port name now =>
    show ∃ holders, (r.renew port name now).2 = { r with holders }
    unfold renew
    split <;> exact ⟨_, rfl⟩
  | release port name =>
    show ∃ holders, (r.release port name).2 = { r with holders }
    unfold release
    split <;> exact ⟨_, rfl⟩
  | lookup name now => exact ⟨_, rfl⟩
  | expire now => exact ⟨_, rfl⟩
  | stop => exact ⟨_, rfl⟩

theorem run_eq (r : Register) (ops : List Pool.Op) :
    ∃ holders, (r.run ops).2 = { r with holders } := by
  induction ops generalizing r with
  | nil => exact ⟨_, rfl⟩
  | cons op ops ih =>
    obtain ⟨holders, hstep⟩ := r.step_eq op
    obtain ⟨holders', hrun⟩ := ih (r.step op).2
    refine ⟨holders', hrun.trans ?_⟩
    rw [hstep]

/-- Looking for the smallest port of a kind is going through the range. -/
theorem lowest?_eq_find? (r : Register) (q : Option Holder → Bool) :
    r.lowest? q = (portsOf r.first r.last).find? fun port => q (r.holders port) := by
  unfold lowest? portsOf
  rw [List.find?_map]
  split
  · rename_i hne
    have hmin := mem_portsWith.mp (Finset.min'_mem _ hne)
    have hfind : (List.range' r.first.toNat (r.last.toNat + 1 - r.first.toNat)).find?
        ((fun port => q (r.holders port)) ∘ Nat.toUInt16)
        = some ((r.portsWith q).min' hne) := by
      rw [List.find?_range'_eq_some]
      refine ⟨hmin.2, ?_, fun n hfirst hn => ?_⟩
      · rw [List.mem_range'_1]
        omega
      · -- a smaller port of the kind would be below the least one
        by_contra hq
        have hmem : n ∈ r.portsWith q :=
          mem_portsWith.mpr ⟨⟨hfirst, by omega⟩, by simpa using hq⟩
        exact absurd (Finset.min'_le _ _ hmem) (Nat.not_le_of_lt hn)
    rw [hfind]
    rfl
  · rename_i hne
    rw [Finset.not_nonempty_iff_eq_empty, Finset.eq_empty_iff_forall_notMem] at hne
    rw [List.find?_eq_none.mpr, Option.map_none]
    intro n hn hq
    rw [List.mem_range'_1] at hn
    exact hne n (mem_portsWith.mpr ⟨by omega, hq⟩)

/-- What is looked for is what is found. -/
theorem of_lowest? {r : Register} {q : Option Holder → Bool} {port : UInt16}
    (h : r.lowest? q = some port) :
    q (r.holders port) = true := by
  rw [lowest?_eq_find?] at h
  exact List.find?_some (p := fun port => q (r.holders port)) h

/-- Counting the ports of a kind is going through the range. -/
theorem card_portsWith (r : Register) (q : Option Holder → Bool) :
    (r.portsWith q).card = (portsOf r.first r.last).countP fun port => q (r.holders port) := by
  rw [portsOf, List.countP_map, List.countP_eq_length_filter]
  show ((List.range' r.first.toNat (r.last.toNat + 1 - r.first.toNat)).filter
    fun n => decide (q (r.holders n.toUInt16) = true)).length = _
  simp only [Bool.decide_eq_true]
  rfl

end Register

/-! ## What a pool holds -/

namespace Slot

/-- Whether a name holds a slot is told by its holder. -/
theorem isHeldBy_eq (s : Slot) (name : String) :
    s.isHeldBy name = s.holder.any (·.name = name) := by
  cases h : s.holder <;> simp [isHeldBy, name?, h]

/-- So is whether it is expired. -/
theorem isExpired_eq (s : Slot) (timeout : Span) (now : Instant) :
    s.isExpired timeout now = s.holder.any (Holder.isSilent timeout now) := by
  cases h : s.holder <;> simp [isExpired, Holder.isSilent, h]

/-- A sweep takes a silent holder away. -/
theorem holder_sweepSlot (s : Slot) (timeout : Span) (now : Instant) :
    (Pool.sweepSlot timeout now s).holder
      = s.holder.filter fun holder => !holder.isSilent timeout now := by
  rw [Pool.sweepSlot, isExpired_eq]
  cases h : s.holder with
  | none => exact h
  | some holder =>
    rw [Option.any_some, Option.filter_some]
    cases hsilent : holder.isSilent timeout now
    · exact h
    · rfl

end Slot

namespace Pool

/-- Who holds a port. -/
def holder? (p : Pool) (port : UInt16) : Option Holder :=
  (p.slots.find? (·.port = port)).bind (·.holder)

/-- **What a pool holds**, without how it finds it. -/
def register (p : Pool) : Register where
  first := p.first
  last := p.last
  timeout := p.timeout
  holders := p.holder?

variable {p : Pool}

theorem IsLaidOut.holder?_port (h : p.IsLaidOut) {s : Slot} (hs : s ∈ p.slots) :
    p.holder? s.port = s.holder := by
  obtain ⟨i, hi⟩ := List.getElem?_of_mem hs
  rw [holder?, find?_port_of_getElem? h.nodup_ports hi]
  rfl

/-- A port that is held is the one of a slot. -/
theorem mem_of_holder? {port : UInt16} {holder : Holder}
    (hp : p.holder? port = some holder) : ∃ s ∈ p.slots, s.port = port ∧ s.holder = holder := by
  obtain ⟨s, hs, hholder⟩ := Option.bind_eq_some_iff.mp hp
  exact ⟨s, List.mem_of_find?_eq_some hs, by simpa using List.find?_some hs, hholder⟩

/-- **Whoever holds a port holds one of the range.** -/
theorem IsLaidOut.mem_range_of_holder? (h : p.IsLaidOut) {port : UInt16} {holder : Holder}
    (hp : p.holder? port = some holder) : p.first ≤ port ∧ port ≤ p.last := by
  obtain ⟨s, hs, rfl, -⟩ := mem_of_holder? hp
  obtain ⟨i, hi⟩ := List.getElem?_of_mem hs
  have hport := h.toNat_port hi
  obtain ⟨hlt, -⟩ := List.getElem?_eq_some_iff.mp hi
  rw [h.length_slots] at hlt
  rw [UInt16.le_iff_toNat_le, UInt16.le_iff_toNat_le]
  omega

/-- **The first slot of a kind has the smallest port of that kind.** -/
theorem IsLaidOut.find?_slots (h : p.IsLaidOut) (q : Option Holder → Bool) :
    (p.slots.find? fun s => q s.holder).map Slot.port = p.register.lowest? q := by
  rw [Register.lowest?_eq_find?]
  show _ = (portsOf p.first p.last).find? fun port => q (p.holder? port)
  rw [← h.ports_eq, List.find?_map]
  refine congrArg (Option.map Slot.port) (List.find?_congr fun s hs => ?_)
  rw [Function.comp_apply, h.holder?_port hs]

/-- There are as many slots of a kind as ports of that kind. -/
theorem IsLaidOut.countP_slots (h : p.IsLaidOut) (q : Option Holder → Bool) :
    (p.slots.countP fun s => q s.holder) = (p.register.portsWith q).card := by
  rw [Register.card_portsWith]
  show _ = (portsOf p.first p.last).countP fun port => q (p.holder? port)
  rw [← h.ports_eq, List.countP_map]
  refine List.countP_congr fun s hs => ?_
  rw [Function.comp_apply, h.holder?_port hs]

/-- **A slot changed changes what its own port maps to** and nothing else. -/
theorem IsLaidOut.holder?_modify (h : p.IsLaidOut) {q : Pool} {i : Nat} {s : Slot}
    {f : Slot → Slot} (hs : p.slots[i]? = some s) (hf : ∀ s, (f s).port = s.port)
    (hq : q.slots = p.slots.modify i f) :
    q.holder? = Function.update p.holder? s.port (f s).holder := by
  funext port
  rw [Function.update_apply, holder?, hq, find?_port_modify h.nodup_ports hs hf, holder?]
  split <;> rfl

/-- **A name holds a port at a position if the register says that it holds
it.** -/
theorem IsLaidOut.isSome_heldAt? (h : p.IsLaidOut) (port : UInt16) (name : String) :
    (p.heldAt? port name).isSome = (p.holder? port).any (·.name = name) := by
  cases hholder : p.holder? port with
  | some holder =>
    obtain ⟨s, hs, rfl, hsome⟩ := mem_of_holder? hholder
    obtain ⟨i, hi⟩ := List.getElem?_of_mem hs
    rw [h.heldAt?_port hi, Slot.isHeldBy_eq, hsome]
    cases (some holder).any (·.name = name) <;> rfl
  | none =>
    cases hi : p.heldAt? port name with
    | none => rfl
    | some i =>
      -- a name found at a position would be in the register
      obtain ⟨s, hs, rfl, hheld⟩ := h.slot_of_heldAt? hi
      rw [h.holder?_port (List.mem_of_getElem? hs)] at hholder
      rw [Slot.isHeldBy_eq, hholder] at hheld
      cases hheld

/-! ## The operations -/

/-- After a sweep, who is silent holds no port. -/
theorem holder?_sweep (p : Pool) (now : Instant) (port : UInt16) :
    (p.sweep now).holder? port
      = (p.holder? port).filter fun holder => !holder.isSilent p.timeout now := by
  show ((p.slots.map (sweepSlot p.timeout now)).find? (·.port = port)).bind (·.holder) = _
  rw [List.find?_map, holder?]
  have hport : (fun s : Slot => decide (s.port = port)) ∘ sweepSlot p.timeout now
      = fun s => decide (s.port = port) :=
    funext fun s => by rw [Function.comp_apply, Slot.port_sweepSlot]
  rw [hport]
  cases p.slots.find? (·.port = port) with
  | none => rfl
  | some s => exact Slot.holder_sweepSlot s p.timeout now

/-- Sweeping a pool sweeps its register. -/
theorem register_sweep (p : Pool) (now : Instant) :
    (p.sweep now).register = p.register.sweep now :=
  Register.ext rfl rfl rfl (funext (holder?_sweep p now))

theorem IsLaidOut.expire_register (h : p.IsLaidOut) (now : Instant) :
    Prod.map id register (p.expire now) = p.register.expire now := by
  refine Prod.ext ?_ (register_sweep p now)
  show (p.slots.countP fun s => s.isExpired p.timeout now) = _
  simp only [Slot.isExpired_eq]
  exact h.countP_slots (·.any (Holder.isSilent p.timeout now))

theorem IsLaidOut.lookup_register (h : p.IsLaidOut) (name : String) (now : Instant) :
    Prod.map id register (p.lookup name now) = p.register.lookup name now := by
  refine Prod.ext ?_ (register_sweep p now)
  show ((p.sweep now).slots.find? (·.isHeldBy name)).map Slot.port = _
  simp only [Slot.isHeldBy_eq]
  rw [(h.sweep now).find?_slots (·.any (·.name = name)), register_sweep]
  rfl

theorem IsLaidOut.allocate_register (h : p.IsLaidOut) (name : String) (now : Instant) :
    Prod.map id register (p.allocate name now) = p.register.allocate name now := by
  have hlowest : ((p.sweep now).slots.find? Slot.isFree).map Slot.port
      = (p.register.sweep now).lowest? Option.isNone := by
    rw [← register_sweep]
    exact (h.sweep now).find?_slots Option.isNone
  rw [h.allocate_eq, Register.allocate, ← hlowest, ← register_sweep]
  cases hs : (p.sweep now).slots.find? Slot.isFree with
  | none => rfl
  | some slot =>
    -- the same port is granted, and it is the one whose entry is new
    rw [(h.sweep now).find?_isFree] at hs
    refine congrArg (Prod.mk _) (Register.ext rfl rfl rfl ?_)
    exact (h.sweep now).holder?_modify hs (fun s => Slot.port_reserve s name now)
      (set_eq_modify hs (·.reserve name now))

/-- A renewal starts the lease anew. -/
theorem IsLaidOut.renew_register (h : p.IsLaidOut) (port : UInt16) (name : String)
    (now : Instant) :
    Prod.map id register (p.renew port name now) = p.register.renew port name now := by
  have hheld : (p.register.holders port).any (·.name = name) = (p.heldAt? port name).isSome :=
    (h.isSome_heldAt? port name).symm
  unfold Pool.renew Register.renew
  rw [hheld]
  cases hi : p.heldAt? port name with
  | none => rfl
  | some i =>
    obtain ⟨s, hs, rfl, hname⟩ := h.slot_of_heldAt? hi
    refine congrArg (Prod.mk _) (Register.ext rfl rfl rfl ?_)
    refine (h.holder?_modify hs (fun s => Slot.port_renew s now) rfl).trans ?_
    refine congrArg (Function.update p.holder? s.port) ?_
    -- the renewed slot keeps the name it had, which is the one that asked
    cases hholder : s.holder <;> simp_all [Slot.isHeldBy_eq, Slot.renew]

theorem IsLaidOut.release_register (h : p.IsLaidOut) (port : UInt16) (name : String) :
    Prod.map id register (p.release port name) = p.register.release port name := by
  have hheld : (p.register.holders port).any (·.name = name) = (p.heldAt? port name).isSome :=
    (h.isSome_heldAt? port name).symm
  unfold Pool.release Register.release
  rw [hheld]
  cases hi : p.heldAt? port name with
  | none => rfl
  | some i =>
    obtain ⟨s, hs, rfl, -⟩ := h.slot_of_heldAt? hi
    exact congrArg (Prod.mk _)
      (Register.ext rfl rfl rfl (h.holder?_modify hs Slot.port_release rfl))

/-- The leases that a pool reports are the entries of its register. -/
theorem IsLaidOut.mem_leases (h : p.IsLaidOut) {port : UInt16} {name : String} :
    (port, name) ∈ p.leases ↔ (p.holder? port).any (·.name = name) = true := by
  rw [leases, List.mem_filterMap]
  constructor
  · rintro ⟨s, hs, hname⟩
    obtain ⟨name', hheld, heq⟩ := Option.map_eq_some_iff.mp hname
    obtain ⟨rfl, rfl⟩ := Prod.mk.inj heq
    rw [h.holder?_port hs, ← Slot.isHeldBy_eq, Slot.isHeldBy, hheld]
    exact decide_eq_true rfl
  · intro hheld
    obtain ⟨holder, hholder, hname⟩ := Option.any_eq_true _ _ |>.mp hheld
    obtain ⟨s, hs, rfl, hsome⟩ := mem_of_holder? hholder
    refine ⟨s, hs, ?_⟩
    rw [Slot.name?, hsome, ← of_decide_eq_true hname]
    rfl

/-- The name of a holder is reported with its port, and no other name is. -/
theorem IsLaidOut.mem_leases_of_holder? (h : p.IsLaidOut) {port : UInt16} {holder : Holder}
    (hholder : p.holder? port = some holder) (name : String) :
    (port, name) ∈ p.leases ↔ name = holder.name := by
  rw [h.mem_leases, hholder, Option.any_some, decide_eq_true_iff]
  exact eq_comm

/-- **One operation**: a pool answers what its register answers, and goes on to
hold what the register holds then. -/
theorem IsLaidOut.register_step (h : p.IsLaidOut) (op : Op) :
    Prod.map id register (p.step op) = p.register.step op := by
  cases op with
  | allocate name now =>
    exact congrArg (Prod.map Answer.grant id) (h.allocate_register name now)
  | renew port name now =>
    exact congrArg (Prod.map Answer.outcome id) (h.renew_register port name now)
  | release port name =>
    exact congrArg (Prod.map Answer.outcome id) (h.release_register port name)
  | lookup name now =>
    exact congrArg (Prod.map Answer.found id) (h.lookup_register name now)
  | expire now =>
    exact congrArg (Prod.map Answer.reclaimed id) (h.expire_register now)
  | stop => rfl

/-- **Any number of operations.** -/
theorem IsLaidOut.register_run (h : p.IsLaidOut) (ops : List Op) :
    Prod.map id register (p.run ops) = p.register.run ops := by
  induction ops generalizing p with
  | nil => rfl
  | cons op ops ih =>
    have hstep := h.register_step op
    have hrest := ih (h.step op)
    rw [Prod.ext_iff] at hstep hrest
    rw [run_cons, Register.run, ← hstep.1, ← hstep.2]
    show (_ :: ((p.step op).2.run ops).1, ((p.step op).2.run ops).2.register) = _
    exact Prod.ext (congrArg (_ :: ·) hrest.1) hrest.2

/-- **What operations change** is who holds the ports, and nothing else. -/
theorem IsLaidOut.run_eq (h : p.IsLaidOut) (ops : List Op) :
    ∃ holders, (p.run ops).2.register = { p.register with holders } := by
  obtain ⟨holders, hrun⟩ := p.register.run_eq ops
  exact ⟨holders, (congrArg Prod.snd (h.register_run ops)).trans hrun⟩

/-- No operation changes how long a lease lasts. -/
theorem IsLaidOut.timeout_run (h : p.IsLaidOut) (ops : List Op) :
    (p.run ops).2.timeout = p.timeout := by
  obtain ⟨holders, hrun⟩ := h.run_eq ops
  exact congrArg Register.timeout hrun

theorem IsLaidOut.timeout_step (h : p.IsLaidOut) (op : Op) : (p.step op).2.timeout = p.timeout :=
  h.timeout_run [op]

/-- Nor which ports there are. -/
theorem IsLaidOut.range_run (h : p.IsLaidOut) (ops : List Op) :
    (p.run ops).2.first = p.first ∧ (p.run ops).2.last = p.last := by
  obtain ⟨holders, hrun⟩ := h.run_eq ops
  exact ⟨congrArg Register.first hrun, congrArg Register.last hrun⟩

/-- The register of a new pool is empty. -/
theorem register_of_new {first last : UInt16} {timeout : Span}
    (h : Pool.new first last timeout = .ok p) :
    p.register = Register.empty first last timeout := by
  unfold Pool.new at h
  split at h
  · cases h
  · cases h
    refine Register.ext rfl rfl rfl (funext fun port => ?_)
    show ((freeSlots first last).find? (·.port = port)).bind (·.holder) = none
    rw [freeSlots, List.find?_map, Option.bind_map]
    exact Option.bind_fun_none _

/-- **A pool is its register with a faster way of finding ports.** Whatever is
asked of a new pool, in whatever order and with whatever readings of the clock,
the answers are those of an empty register, and so is what is held afterwards,
to the last word of every holder. And at every moment `lowestFree` is the
position of the lowest free slot, or the number of slots if none is free, the
slot at a position has the port that lies as far from the first one, and the
position of a port of the range, which is its distance from the first one
without any wrapping, is that of a slot. -/
theorem run_eq_run_register {first last : UInt16} (timeout : Span) (hle : first ≤ last) :
    ∃ p, Pool.new first last timeout = .ok p ∧ ∀ ops : List Op,
      (p.run ops).1 = ((Register.empty first last timeout).run ops).1
      ∧ (p.run ops).2.register = ((Register.empty first last timeout).run ops).2
      ∧ (∀ port name, (port, name) ∈ (p.run ops).2.leases
          ↔ (((Register.empty first last timeout).run ops).2.holders port).any
              (·.name = name) = true)
      ∧ (p.run ops).2.lowestFree = (p.run ops).2.slots.findIdx Slot.isFree
      ∧ (p.run ops).2.lowestFree ≤ (p.run ops).2.slots.length
      ∧ (p.run ops).2.slots.length = last.toNat + 1 - first.toNat
      ∧ (∀ i s, (p.run ops).2.slots[i]? = some s → s.port.toNat = first.toNat + i)
      ∧ ∀ port, first ≤ port → port ≤ last →
          first.toNat + (port - first).toNat = port.toNat
          ∧ (port - first).toNat < (p.run ops).2.slots.length := by
  obtain ⟨p, hp⟩ : ∃ p, Pool.new first last timeout = .ok p :=
    ⟨_, if_neg (UInt16.not_lt.mpr hle)⟩
  refine ⟨p, hp, fun ops => ?_⟩
  have hrun := (isLaidOut_of_new hp).register_run ops
  rw [register_of_new hp, Prod.ext_iff] at hrun
  obtain ⟨hanswers, hregister⟩ := hrun
  have hlaid := (isLaidOut_of_new hp).run ops
  obtain ⟨holders, hrange⟩ := (Register.empty first last timeout).run_eq ops
  have hfirst : (p.run ops).2.first = first :=
    congrArg Register.first (hregister.trans hrange)
  have hlast : (p.run ops).2.last = last := congrArg Register.last (hregister.trans hrange)
  have hlength := hlaid.length_slots
  rw [hfirst, hlast] at hlength
  refine ⟨hanswers, hregister, fun port name => ?_, hlaid.lowestFree_eq, hlaid.lowestFree_le,
    hlength, fun i s hs => ?_, fun port hport hport' => ?_⟩
  · rw [hlaid.mem_leases, ← hregister]
    rfl
  · rw [hlaid.toNat_port hs, hfirst]
  · rw [UInt16.toNat_sub_of_le _ _ hport, hlength]
    rw [UInt16.le_iff_toNat_le] at hport hport'
    omega

/-- Two ports at the top of the range, with a clock that goes backwards, a
sweep below the lowest free slot and a port outside of the range. -/
theorem answers_at_the_top : (65534 : UInt16) ≤ 65535 ∧
    ∃ p, Pool.new 65534 65535 ⟨5⟩ = .ok p
      ∧ (p.run [.allocate "a" 5, .allocate "b" 9, .allocate "c" 4, .renew 65535 "b" 8,
          .renew 7 "b" 9, .expire 11, .allocate "c" 2, .lookup "b" 6, .lookup "b" 14,
          .release 65534 "c"]).1
        = [.grant (.granted 65534), .grant (.granted 65535), .grant .allBusy, .outcome .ok,
          .outcome .notFound, .reclaimed 1, .grant (.granted 65534), .found (some 65535),
          .found none, .outcome .notFound] := by
  obtain ⟨p, hp, hrun⟩ := run_eq_run_register ⟨5⟩ (show (65534 : UInt16) ≤ 65535 by decide)
  refine ⟨by decide, p, hp, ?_⟩
  rw [(hrun _).1]
  decide

end Pool

end Moorings.Lease
