import Moorings.Lease.Slot
import Moorings.Settings

/-!
# The pool of ports

A pool leases the ports of a closed range, lowest first. Nothing happens in it
by itself: holders that have been silent for too long lose their ports when
the pool is swept, and it is swept at the start of every `allocate` and
`lookup`, and by `expire`.

So as not to look for the lowest free port anew each time, the pool keeps
where it is: `lowestFree` is the position of the lowest free slot, or the
number of slots when none is free. Three things move it. A grant moves it up
to the next free slot, a release moves it down to the released one, and a
sweep down to the lowest slot that it frees.

Each operation is a function of the pool that gives its answer together with
the pool afterwards. `Op`, `Answer` and `step` put all of them into one type,
and `run` performs a whole list, so that a history of the pool is a value.
-/

namespace Moorings.Lease

/-- **The ports of a range and their holders.** -/
structure Pool where
  /-- The first port of the range. -/
  first : UInt16
  /-- The last port of the range. -/
  last : UInt16
  /-- How long a lease lasts without a word from its holder. -/
  timeout : Span
  /-- The ports, from the first to the last. -/
  slots : List Slot
  /-- The position of the lowest free slot. -/
  lowestFree : Nat
  /-- Whether the pool has been asked to stop. -/
  stopped : Bool
  deriving DecidableEq, Repr

/-- What comes of asking for a port. -/
inductive Grant where
  | granted (port : UInt16)
  | allBusy
  deriving DecidableEq, Repr

/-- What comes of an operation on a lease that one claims to hold. -/
inductive Outcome where
  | ok
  | notFound
  deriving DecidableEq, Repr

namespace Pool

/-- The slots of a range in which every port is free. -/
def freeSlots (first last : UInt16) : List Slot :=
  (List.range' first.toNat (last.toNat + 1 - first.toNat)).map fun port =>
    Slot.free port.toUInt16

/-- The pool of a range, with every port free. -/
def new (first last : UInt16) (timeout : Span) : Except SettingsError Pool :=
  if last < first then .error (.invalidPortRange first last)
  else .ok
    { first, last, timeout, slots := freeSlots first last, lowestFree := 0, stopped := false }

/-! ## Sweeping -/

/-- A slot after a sweep. -/
def sweepSlot (timeout : Span) (now : Instant) (s : Slot) : Slot :=
  if s.isExpired timeout now then s.release else s

/-- **Every port taken back whose holder has been silent for too long**, and
the number of those ports. -/
def expire (p : Pool) (now : Instant) : Nat × Pool :=
  let isExpired (s : Slot) := s.isExpired p.timeout now
  let lowestFree :=
    match p.slots.findIdx? isExpired with
    | some i => min i p.lowestFree
    | none => p.lowestFree
  (p.slots.countP isExpired,
    { p with slots := p.slots.map (sweepSlot p.timeout now), lowestFree })

/-- The pool after a sweep. -/
def sweep (p : Pool) (now : Instant) : Pool := (p.expire now).2

/-! ## Leasing -/

/-- The position of the first free slot from position `i` on, or the number of
slots if there is none. -/
def nextFree (slots : List Slot) (i : Nat) : Nat :=
  i + (slots.drop i).findIdx Slot.isFree

/-- **The lowest free port given to `name`**, after a sweep. -/
def allocate (p : Pool) (name : String) (now : Instant) : Grant × Pool :=
  let p := p.sweep now
  match p.slots[p.lowestFree]? with
  | none => (.allBusy, p)
  | some slot =>
    let slots := p.slots.set p.lowestFree (slot.reserve name now)
    (.granted slot.port, { p with slots, lowestFree := nextFree slots (p.lowestFree + 1) })

/-- The position of the slot of `port`, if `name` holds it. -/
def heldAt? (p : Pool) (port : UInt16) (name : String) : Option Nat :=
  if port < p.first ∨ p.last < port then none
  else
    let i := port.toNat - p.first.toNat
    match p.slots[i]? with
    | some slot => if slot.isHeldBy name then some i else none
    | none => none

/-- The lease of `name` on `port` renewed, if it has one. -/
def renew (p : Pool) (port : UInt16) (name : String) (now : Instant) : Outcome × Pool :=
  match p.heldAt? port name with
  | some i => (.ok, { p with slots := p.slots.modify i (·.renew now) })
  | none => (.notFound, p)

/-- The lease of `name` on `port` given up, if it has one. -/
def release (p : Pool) (port : UInt16) (name : String) : Outcome × Pool :=
  match p.heldAt? port name with
  | some i =>
    (.ok, { p with slots := p.slots.modify i Slot.release, lowestFree := min i p.lowestFree })
  | none => (.notFound, p)

/-- The lowest port that `name` holds, after a sweep. -/
def lookup (p : Pool) (name : String) (now : Instant) : Option UInt16 × Pool :=
  let p := p.sweep now
  ((p.slots.find? (·.isHeldBy name)).map (·.port), p)

/-- The pool asked to stop. -/
def stop (p : Pool) : Pool := { p with stopped := true }

/-! ## What a pool holds -/

/-- How many ports the range has. -/
def capacity (p : Pool) : Nat := p.slots.length

/-- How many ports are free. -/
def available (p : Pool) : Nat := p.slots.countP Slot.isFree

/-- How many ports are held. -/
def held (p : Pool) : Nat := p.capacity - p.available

/-- The held ports with the names of their holders, in order. -/
def leases (p : Pool) : List (UInt16 × String) :=
  p.slots.filterMap fun s => s.name?.map fun name => (s.port, name)

/-! ## Histories -/

/-- One operation on a pool. -/
inductive Op where
  | allocate (name : String) (now : Instant)
  | renew (port : UInt16) (name : String) (now : Instant)
  | release (port : UInt16) (name : String)
  | lookup (name : String) (now : Instant)
  | expire (now : Instant)
  | stop
  deriving DecidableEq, Repr

/-- What an operation answers. -/
inductive Answer where
  | grant (grant : Grant)
  | outcome (outcome : Outcome)
  | found (port : Option UInt16)
  | reclaimed (count : Nat)
  | done
  deriving DecidableEq, Repr

/-- One operation performed. -/
def step (p : Pool) : Op → Answer × Pool
  | .allocate name now => let (grant, p) := p.allocate name now; (.grant grant, p)
  | .renew port name now => let (outcome, p) := p.renew port name now; (.outcome outcome, p)
  | .release port name => let (outcome, p) := p.release port name; (.outcome outcome, p)
  | .lookup name now => let (port, p) := p.lookup name now; (.found port, p)
  | .expire now => let (count, p) := p.expire now; (.reclaimed count, p)
  | .stop => (.done, p.stop)

/-- The operations performed one after another, with their answers. -/
def run (p : Pool) : List Op → List Answer × Pool
  | [] => ([], p)
  | op :: ops =>
    let (answer, p) := p.step op
    let (answers, p) := p.run ops
    (answer :: answers, p)

end Pool

end Moorings.Lease
