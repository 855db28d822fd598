import Moorings.Lease.Pool
import Mathlib.Algebra.GroupWithZero.Nat
import Mathlib.Data.Nat.Basic
import Mathlib.Order.Basic

/-!
# Only the latest sweep counts

A pool is swept whenever somebody asks for a port, at whatever time that is,
and the clock may go backwards in between. So what it holds depends on every
sweep that there has been, but only on the latest of their readings. Two sweeps
come to the one at the later reading (`Pool.sweep_sweep`), with as many ports
taken back (`Pool.reclaimed_add`), and so do any number of them
(`Pool.run_expire`).

For a single slot this is arithmetic. Who has been silent for too long at one
of two readings has been so at the later one (`Slot.isExpired_max`), and whom
the first sweep has freed the second does not find. The lowest free position
is a different matter, since each sweep pulls it down from wherever the one
before has left it. It is a minimum that is taken in two steps, and is best
told by what lies below it (`Pool.le_lowestFree_sweep`).
-/

namespace Moorings.Lease

namespace Slot

/-! ## One slot at two readings -/

/-- **The later of two readings finds whoever one of them does.** -/
theorem isExpired_max (s : Slot) (timeout : Span) (t u : Instant) :
    s.isExpired timeout (max t u) = (s.isExpired timeout t || s.isExpired timeout u) := by
  unfold isExpired Instant.since
  cases s.holder with
  | none => rfl
  | some holder =>
    show decide (timeout.nanos ≤ max t u - holder.renewed)
      = (decide (timeout.nanos ≤ t - holder.renewed) || decide (timeout.nanos ≤ u - holder.renewed))
    rw [← Bool.decide_or]
    exact decide_eq_decide.mpr (by omega)

/-- A sweep finds nobody whom an earlier one has freed. -/
theorem isExpired_sweepSlot (s : Slot) (timeout : Span) (t u : Instant) :
    (Pool.sweepSlot timeout t s).isExpired timeout u
      = (!s.isExpired timeout t && s.isExpired timeout u) := by
  unfold Pool.sweepSlot
  cases h : s.isExpired timeout t with
  | true => rfl
  | false => simp

/-- **A slot that is swept twice** is swept at the later reading. -/
theorem sweepSlot_sweepSlot (s : Slot) (timeout : Span) (t u : Instant) :
    Pool.sweepSlot timeout u (Pool.sweepSlot timeout t s)
      = Pool.sweepSlot timeout (max t u) s := by
  rw [Pool.sweepSlot, isExpired_sweepSlot, Pool.sweepSlot, Pool.sweepSlot, isExpired_max]
  cases s.isExpired timeout t <;> simp

end Slot

/-- What is counted before and after a change, if the change takes away what has
been counted. -/
theorem countP_add_countP_map {α : Type} {q r : α → Bool} {f : α → α}
    (hf : ∀ a, r (f a) = (!q a && r a)) (l : List α) :
    l.countP q + (l.map f).countP r = l.countP fun a => q a || r a := by
  induction l with
  | nil => rfl
  | cons a l ih =>
    rw [List.map_cons, List.countP_cons, List.countP_cons, List.countP_cons, hf a, ← ih]
    cases q a
    · simp [Nat.add_assoc]
    · simp [Nat.add_right_comm]

namespace Pool

/-! ## Two sweeps -/

/-- A sweep finds nothing to do if nobody has been silent for too long. -/
theorem sweep_eq_self {p : Pool} {now : Instant}
    (h : ∀ slot ∈ p.slots, slot.isExpired p.timeout now = false) : p.sweep now = p := by
  have hnone : p.slots.findIdx? (fun slot => slot.isExpired p.timeout now) = none :=
    List.findIdx?_eq_none_iff.mpr h
  have hslots : p.slots.map (sweepSlot p.timeout now) = p.slots := by
    refine (List.map_congr_left fun slot hslot => ?_).trans (List.map_id p.slots)
    rw [sweepSlot, h slot hslot]
    rfl
  unfold sweep expire
  dsimp only
  rw [hnone, hslots]

/-- **A sweep leaves nobody** who has been silent for too long. -/
theorem isExpired_of_mem_sweep {p : Pool} {now : Instant} {slot : Slot}
    (h : slot ∈ (p.sweep now).slots) : slot.isExpired p.timeout now = false := by
  obtain ⟨s, -, rfl⟩ := List.mem_map.mp h
  rw [Slot.isExpired_sweepSlot, Bool.not_and_self]

/-- Whether the holder at a position has been silent for too long. -/
def isExpiredAt (p : Pool) (now : Instant) (i : Nat) : Bool :=
  p.slots[i]?.any fun slot => slot.isExpired p.timeout now

theorem isExpiredAt_max (p : Pool) (t u : Instant) (i : Nat) :
    p.isExpiredAt (max t u) i = (p.isExpiredAt t i || p.isExpiredAt u i) := by
  unfold isExpiredAt
  cases p.slots[i]? with
  | none => rfl
  | some slot => exact slot.isExpired_max p.timeout t u

theorem isExpiredAt_sweep (p : Pool) (t u : Instant) (i : Nat) :
    (p.sweep t).isExpiredAt u i = (!p.isExpiredAt t i && p.isExpiredAt u i) := by
  show ((p.slots.map (sweepSlot p.timeout t))[i]?).any (fun slot => slot.isExpired p.timeout u) = _
  rw [List.getElem?_map, isExpiredAt, isExpiredAt]
  cases p.slots[i]? with
  | none => rfl
  | some slot => exact slot.isExpired_sweepSlot p.timeout t u

/-- **Where a sweep leaves the lowest free position**: no lower than it was, but
for the slots that it frees. -/
theorem le_lowestFree_sweep (p : Pool) (now : Instant) (n : Nat) :
    n ≤ (p.sweep now).lowestFree
      ↔ n ≤ p.lowestFree ∧ ∀ i, p.isExpiredAt now i = true → n ≤ i := by
  unfold sweep expire isExpiredAt
  dsimp only
  cases hfirst : p.slots.findIdx? (fun slot => slot.isExpired p.timeout now) with
  | none =>
    refine ⟨fun h => ⟨h, fun i hexpired => ?_⟩, fun h => h.1⟩
    obtain ⟨slot, hslot, hsilent⟩ := (Option.any_eq_true _ _).mp hexpired
    rw [List.findIdx?_eq_none_iff.mp hfirst slot (List.mem_of_getElem? hslot)] at hsilent
    cases hsilent
  | some first =>
    obtain ⟨hlt, hexpired, hbefore⟩ := List.findIdx?_eq_some_iff_getElem.mp hfirst
    rw [Nat.le_min]
    constructor
    · rintro ⟨hn, hle⟩
      refine ⟨hle, fun i hexpired => Nat.le_trans hn (Nat.le_of_not_lt fun hi => ?_)⟩
      obtain ⟨slot, hslot, hsilent⟩ := (Option.any_eq_true _ _).mp hexpired
      obtain ⟨_, rfl⟩ := List.getElem?_eq_some_iff.mp hslot
      exact hbefore i hi hsilent
    · rintro ⟨hle, hall⟩
      exact ⟨hall first (by rwa [List.getElem?_eq_getElem hlt]), hle⟩

/-- The lowest free position after two sweeps lies below what either of them frees, and
that is what the one at the later reading frees. -/
theorem lowestFree_sweep_sweep (p : Pool) (t u : Instant) :
    ((p.sweep t).sweep u).lowestFree = (p.sweep (max t u)).lowestFree := by
  refine eq_of_forall_le_iff fun n => ?_
  rw [le_lowestFree_sweep, le_lowestFree_sweep, le_lowestFree_sweep, and_assoc, ← forall_and]
  refine and_congr_right fun _ => forall_congr' fun i => ?_
  rw [isExpiredAt_sweep, isExpiredAt_max]
  cases p.isExpiredAt t i <;> simp

/-- **Two sweeps are one** at the later of their readings. -/
theorem sweep_sweep (p : Pool) (t u : Instant) : (p.sweep t).sweep u = p.sweep (max t u) := by
  have hslots : ((p.sweep t).sweep u).slots = (p.sweep (max t u)).slots := by
    show (p.slots.map (sweepSlot p.timeout t)).map (sweepSlot p.timeout u) = _
    rw [List.map_map]
    exact List.map_congr_left fun s _ => s.sweepSlot_sweepSlot p.timeout t u
  show { p with
      slots := ((p.sweep t).sweep u).slots, lowestFree := ((p.sweep t).sweep u).lowestFree }
    = p.sweep (max t u)
  rw [hslots, lowestFree_sweep_sweep]
  rfl

/-- **Two sweeps take back as many ports** as the one does that they come to. -/
theorem reclaimed_add (p : Pool) (t u : Instant) :
    (p.expire t).1 + ((p.sweep t).expire u).1 = (p.expire (max t u)).1 := by
  show p.slots.countP _ + (p.slots.map (sweepSlot p.timeout t)).countP _ = p.slots.countP _
  simp only [Slot.isExpired_max]
  exact countP_add_countP_map (fun s => s.isExpired_sweepSlot p.timeout t u) p.slots

/-- **An earlier sweep finds nothing** that a later one has left. -/
theorem expire_sweep_of_le (p : Pool) {t u : Instant} (h : u ≤ t) :
    (p.sweep t).expire u = (0, p.sweep t) := by
  have hadd := p.reclaimed_add t u
  have hpool := p.sweep_sweep t u
  rw [Nat.max_eq_left h] at hadd hpool
  exact Prod.ext (Nat.add_eq_left.mp hadd) hpool

/-! ## Any number of sweeps -/

/-- **Any number of sweeps are one** at the latest of their readings. -/
theorem run_expire (p : Pool) (t : Instant) (times : List Instant) :
    ∃ counts : List Nat,
      p.run ((t :: times).map .expire)
        = (counts.map .reclaimed, p.sweep (times.foldl max t))
      ∧ counts.sum = (p.expire (times.foldl max t)).1 := by
  induction times generalizing p t with
  | nil => exact ⟨[(p.expire t).1], rfl, Nat.add_zero _⟩
  | cons u times ih =>
    obtain ⟨counts, hrun, hsum⟩ := ih (p.sweep t) u
    have hlatest : (u :: times).foldl max t = max t (times.foldl max u) := List.foldl_assoc
    refine ⟨(p.expire t).1 :: counts, ?_, ?_⟩
    · show (Answer.reclaimed _ :: ((p.sweep t).run ((u :: times).map .expire)).1,
        ((p.sweep t).run ((u :: times).map .expire)).2) = _
      rw [hrun, hlatest, ← sweep_sweep]
      rfl
    · rw [List.sum_cons, hsum, hlatest, reclaimed_add]

/-- **Sweeps compose.** A sweep leaves nobody who has been silent for too long.
Whatever pool is swept, and however the clock goes, two sweeps leave the slots
and the lowest free position that the one at the later reading leaves, and take
back as many ports together. So a sweep that is repeated, or that comes at an
earlier reading, takes back nothing and changes nothing, and which of two sweeps
came first cannot be told from the pool. And any number of sweeps come to the
one at the latest of their readings. -/
theorem sweeps_compose (p : Pool) (t u : Instant) :
    (∀ slot ∈ (p.expire t).2.slots, slot.isExpired p.timeout t = false)
    ∧ ((p.expire t).2.expire u).2 = (p.expire (max t u)).2
    ∧ (p.expire t).1 + ((p.expire t).2.expire u).1 = (p.expire (max t u)).1
    ∧ (u ≤ t → (p.expire t).2.expire u = (0, (p.expire t).2))
    ∧ ((p.expire t).2.expire u).2 = ((p.expire u).2.expire t).2
    ∧ ∀ times : List Instant, ∃ counts : List Nat,
        p.run ((t :: times).map .expire)
          = (counts.map .reclaimed, (p.expire (times.foldl max t)).2)
        ∧ counts.sum = (p.expire (times.foldl max t)).1 := by
  refine ⟨fun _ => isExpired_of_mem_sweep, p.sweep_sweep t u, p.reclaimed_add t u,
    p.expire_sweep_of_le, ?_, p.run_expire t⟩
  calc (p.sweep t).sweep u = p.sweep (max t u) := p.sweep_sweep t u
    _ = p.sweep (max u t) := by rw [Nat.max_comm]
    _ = (p.sweep u).sweep t := (p.sweep_sweep u t).symm

/-- Two holders of which one is silent for too long at the first reading, and
the other only at a second that comes to be before it. -/
theorem sweeps_compose_of_backwards :
    let p : Pool :=
      { first := 40000, last := 40002, timeout := ⟨5⟩
        slots := [⟨40000, some ⟨"a", 6⟩⟩, ⟨40001, some ⟨"b", 3⟩⟩, ⟨40002, none⟩]
        lowestFree := 2, stopped := false }
    (8 : Instant) ≤ 11
      ∧ (p.expire 8).1 = 1 ∧ (p.expire 8).2.lowestFree = 1
      ∧ ((p.expire 8).2.expire 11).2.lowestFree = 0
      ∧ (p.expire 11).2.expire 8 = (0, (p.expire 11).2)
      ∧ ((p.expire 11).2.expire 8).2 = ((p.expire 8).2.expire 11).2 := by
  intro p
  obtain ⟨-, -, -, hearlier, hcomm, -⟩ := p.sweeps_compose 11 8
  exact ⟨by decide, by decide, by decide, by decide, hearlier (by decide), hcomm⟩

end Pool

end Moorings.Lease
