import Moorings.Time

/-!
# One port that can be leased

A slot is a port together with whoever holds it. The holder is known by a
name, and has to say from time to time that it is still there: what counts is
the time that has passed since its last word, and a clock that goes backwards
takes nothing from it.
-/

namespace Moorings.Lease

/-- Whoever holds a port. -/
structure Holder where
  /-- The name of the service. -/
  name : String
  /-- When the port was given out or last renewed. -/
  renewed : Instant
  deriving DecidableEq, Repr

/-- **A port and its holder**, if it has one. -/
structure Slot where
  /-- The port. -/
  port : UInt16
  /-- Who holds it. -/
  holder : Option Holder
  deriving DecidableEq, Repr

namespace Slot

/-- A port that nobody holds. -/
def free (port : UInt16) : Slot := { port, holder := none }

/-- Whether nobody holds the port. -/
def isFree (s : Slot) : Bool := s.holder.isNone

/-- The name of the holder. -/
def name? (s : Slot) : Option String := s.holder.map (·.name)

/-- Whether the holder has exactly this name. -/
def isHeldBy (s : Slot) (name : String) : Bool := s.name? = some name

/-- Whether the holder has been silent for `timeout` or longer. -/
def isExpired (s : Slot) (timeout : Span) (now : Instant) : Bool :=
  match s.holder with
  | some holder => timeout.nanos ≤ (Instant.since now holder.renewed).nanos
  | none => false

/-- The port given to `name`, from `now` on. -/
def reserve (s : Slot) (name : String) (now : Instant) : Slot :=
  { s with holder := some { name, renewed := now } }

/-- The holder heard of at `now`, if there is one. -/
def renew (s : Slot) (now : Instant) : Slot :=
  { s with holder := s.holder.map fun holder => { holder with renewed := now } }

/-- The port taken back. -/
def release (s : Slot) : Slot := { s with holder := none }

/-- A held port as reports show it. -/
structure Info where
  port : UInt16
  name : String
  /-- The whole seconds since the last word of the holder. -/
  idleSeconds : Nat
  deriving DecidableEq, Repr

/-- What reports show of the port, if it is held. -/
def info (s : Slot) (now : Instant) : Option Info :=
  s.holder.map fun holder =>
    { port := s.port, name := holder.name,
      idleSeconds := (Instant.since now holder.renewed).seconds }

/-! ## What each operation does to the holder -/

@[simp] theorem port_reserve (s : Slot) (name : String) (now : Instant) :
    (s.reserve name now).port = s.port := rfl

@[simp] theorem port_renew (s : Slot) (now : Instant) : (s.renew now).port = s.port := rfl

@[simp] theorem port_release (s : Slot) : s.release.port = s.port := rfl

@[simp] theorem isFree_release (s : Slot) : s.release.isFree = true := rfl

@[simp] theorem isFree_reserve (s : Slot) (name : String) (now : Instant) :
    (s.reserve name now).isFree = false := rfl

@[simp] theorem isFree_renew (s : Slot) (now : Instant) : (s.renew now).isFree = s.isFree := by
  simp [renew, isFree]

@[simp] theorem name?_renew (s : Slot) (now : Instant) : (s.renew now).name? = s.name? := by
  simp [renew, name?, Function.comp_def]

end Slot

end Moorings.Lease
