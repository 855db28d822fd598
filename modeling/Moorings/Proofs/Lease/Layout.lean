import Moorings.Lease.Pool
import Mathlib.Data.List.Find
import Mathlib.Data.List.Nodup

/-!
# How a pool is laid out

A pool finds a port by its position and the lowest free port by the position
it keeps. Both are right only because of how its slots lie: one for each port
of the range, in order, and `lowestFree` at the first of them that is free.
`Pool.IsLaidOut` says so, and every operation keeps it.

The position of the lowest free slot is moved by three rules, one for a grant,
one for a release and one for a sweep. Each of them is a law of `findIdx`: what
the first free position becomes when one more slot is taken, when one is freed,
and when all of some kind are (`findIdx_set_findIdx`, `findIdx_modify_of_true`,
`findIdx_or`).
-/

namespace Moorings.Lease

/-! ## The first position of a kind -/

section FirstPosition

variable {α : Type} {q : α → Bool}

/-- The first of two kinds is at the lower of their first positions. -/
theorem findIdx_or (q r : α → Bool) (l : List α) :
    l.findIdx (fun a => q a || r a) = min (l.findIdx q) (l.findIdx r) := by
  induction l with
  | nil => rfl
  | cons a l ih =>
    rw [List.findIdx_cons, List.findIdx_cons, List.findIdx_cons, ih]
    cases q a <;> cases r a <;> simp [Nat.add_min_add_right]

/-- **Freeing one more**: an element that comes to be of the kind is the first
one if none was before it. -/
theorem findIdx_modify_of_true {f : α → α} (hf : ∀ a, q (f a) = true) {l : List α} {i : Nat}
    (hi : i < l.length) : (l.modify i f).findIdx q = min i (l.findIdx q) := by
  induction l generalizing i with
  | nil => exact absurd hi (Nat.not_lt_zero i)
  | cons a l ih =>
    cases i with
    | zero => rw [List.modify_zero_cons, List.findIdx_cons, hf a]; simp
    | succ i =>
      rw [List.modify_succ_cons, List.findIdx_cons, List.findIdx_cons,
        ih (Nat.lt_of_succ_lt_succ hi)]
      cases q a <;> simp [Nat.add_min_add_right]

/-- **Taking the first**: when it ceases to be of the kind, the first one is
the next after it. -/
theorem findIdx_set_findIdx {b : α} (hb : q b = false) {l : List α}
    (hl : l.findIdx q < l.length) :
    (l.set (l.findIdx q) b).findIdx q
      = l.findIdx q + 1 + (l.drop (l.findIdx q + 1)).findIdx q := by
  induction l with
  | nil => exact absurd hl (Nat.not_lt_zero _)
  | cons a l ih =>
    cases ha : q a with
    | true =>
      -- the first one is the head, and the search goes on in the tail
      rw [List.findIdx_cons, ha]
      simp [List.findIdx_cons, hb, Nat.add_comm]
    | false =>
      have hidx : (a :: l).findIdx q = l.findIdx q + 1 := by rw [List.findIdx_cons, ha]; rfl
      rw [hidx] at hl ⊢
      rw [List.set_cons_succ, List.findIdx_cons, ha, List.drop_succ_cons]
      show (l.set (l.findIdx q) b).findIdx q + 1 = _
      rw [ih (Nat.lt_of_succ_lt_succ hl)]
      omega

/-- What is the same at every position keeps the first position of a kind. -/
theorem findIdx_congr_map {f : α → α} (hf : ∀ a, q (f a) = q a) (l : List α) (i : Nat) :
    (l.modify i f).findIdx q = l.findIdx q := by
  induction l generalizing i with
  | nil => rw [List.modify_nil]
  | cons a l ih =>
    cases i with
    | zero => rw [List.modify_zero_cons, List.findIdx_cons, List.findIdx_cons, hf a]
    | succ i => rw [List.modify_succ_cons, List.findIdx_cons, List.findIdx_cons, ih i]

end FirstPosition

/-! ## The ports of a range -/

/-- The ports of a range, in order. -/
def portsOf (first last : UInt16) : List UInt16 :=
  (List.range' first.toNat (last.toNat + 1 - first.toNat)).map Nat.toUInt16

theorem length_portsOf (first last : UInt16) :
    (portsOf first last).length = last.toNat + 1 - first.toNat := by
  rw [portsOf, List.length_map, List.length_range']

/-- A number up to a port is one, so that the ports of a range do not wrap. -/
theorem toNat_toUInt16_of_le {n : Nat} (last : UInt16) (h : n ≤ last.toNat) :
    n.toUInt16.toNat = n :=
  UInt16.toNat_ofNat_of_lt' (Nat.lt_of_le_of_lt h last.toNat_lt)

/-- The port at a position. -/
theorem toNat_of_getElem?_portsOf {first last port : UInt16} {i : Nat}
    (h : (portsOf first last)[i]? = some port) : port.toNat = first.toNat + i := by
  rw [portsOf, List.getElem?_map, Option.map_eq_some_iff] at h
  obtain ⟨n, hn, rfl⟩ := h
  obtain ⟨hi, rfl⟩ := List.getElem?_eq_some_iff.mp hn
  rw [List.length_range'] at hi
  rw [List.getElem_range', Nat.one_mul]
  exact toNat_toUInt16_of_le last (by omega)

theorem nodup_portsOf (first last : UInt16) : (portsOf first last).Nodup := by
  -- numbers of the range are told apart as ports because none of them wraps
  refine List.Nodup.map_on (fun n hn m hm h => ?_) List.nodup_range'
  rw [List.mem_range'_1] at hn hm
  have h := congrArg UInt16.toNat h
  rwa [toNat_toUInt16_of_le last (by omega),
    toNat_toUInt16_of_le last (by omega)] at h

/-! ## The slot of a port -/

/-- The slot of a port is found at its position, if no other slot has it. -/
theorem find?_port_of_getElem? {slots : List Slot} (hn : (slots.map Slot.port).Nodup)
    {i : Nat} {s : Slot} (hs : slots[i]? = some s) :
    slots.find? (·.port = s.port) = some s := by
  induction slots generalizing i with
  | nil => cases hs
  | cons t slots ih =>
    rw [List.map_cons, List.nodup_cons] at hn
    cases i with
    | zero =>
      obtain rfl : t = s := Option.some.inj hs
      exact List.find?_cons_of_pos (by simp)
    | succ i =>
      -- the head has another port, since the port of `s` is in the tail
      have hmem : s.port ∈ slots.map Slot.port := List.mem_map_of_mem (List.mem_of_getElem? hs)
      have hne : t.port ≠ s.port := fun h => hn.1 (h ▸ hmem)
      rw [List.find?_cons_of_neg (by simpa using hne)]
      exact ih hn.2 hs

/-- A slot changed is the one that is found for its port, and the others are
found as before. -/
theorem find?_port_modify {slots : List Slot} (hn : (slots.map Slot.port).Nodup) {i : Nat}
    {s : Slot} (hs : slots[i]? = some s) {f : Slot → Slot} (hf : ∀ s, (f s).port = s.port)
    (port : UInt16) :
    (slots.modify i f).find? (·.port = port)
      = if port = s.port then some (f s) else slots.find? (·.port = port) := by
  induction slots generalizing i with
  | nil => cases hs
  | cons t slots ih =>
    rw [List.map_cons, List.nodup_cons] at hn
    cases i with
    | zero =>
      obtain rfl : t = s := Option.some.inj hs
      rw [List.modify_zero_cons, List.find?_cons, List.find?_cons, hf t]
      by_cases h : port = t.port
      · rw [if_pos h, h]
        simp
      · rw [if_neg h]
        simp [Ne.symm h]
    | succ i =>
      rw [List.modify_succ_cons, List.find?_cons, List.find?_cons, ih hn.2 hs]
      by_cases h : port = s.port
      · have hmem : s.port ∈ slots.map Slot.port :=
          List.mem_map_of_mem (List.mem_of_getElem? hs)
        have hne : t.port ≠ port := fun e => hn.1 (e.trans h ▸ hmem)
        rw [if_pos h, if_pos h]
        simp [hne]
      · rw [if_neg h, if_neg h]

/-- What changes no port of a slot changes no port of the slots. -/
theorem map_port_modify {f : Slot → Slot} (hf : ∀ s, (f s).port = s.port) (slots : List Slot)
    (i : Nat) : (slots.modify i f).map Slot.port = slots.map Slot.port := by
  induction slots generalizing i with
  | nil => rw [List.modify_nil]
  | cons t slots ih =>
    cases i with
    | zero => rw [List.modify_zero_cons, List.map_cons, List.map_cons, hf t]
    | succ i => rw [List.modify_succ_cons, List.map_cons, List.map_cons, ih i]

/-! ## Laid-out pools -/

namespace Slot

@[simp] theorem port_sweepSlot (timeout : Span) (now : Instant) (s : Slot) :
    (Pool.sweepSlot timeout now s).port = s.port := by
  unfold Pool.sweepSlot
  split <;> rfl

/-- After a sweep a slot is free if it was, or if its holder was silent. -/
theorem isFree_sweepSlot (timeout : Span) (now : Instant) (s : Slot) :
    (Pool.sweepSlot timeout now s).isFree = (s.isFree || s.isExpired timeout now) := by
  unfold Pool.sweepSlot
  cases h : s.isExpired timeout now with
  | true => simp
  | false => simp

end Slot

namespace Pool

/-- **A pool whose slots are where they are looked for**: the ports of the
range in order, and the lowest free one at `lowestFree`. -/
structure IsLaidOut (p : Pool) : Prop where
  /-- The range has a port at least. -/
  ordered : p.first ≤ p.last
  /-- The slots have the ports of the range, in order. -/
  ports_eq : p.slots.map Slot.port = portsOf p.first p.last
  /-- `lowestFree` is the first position of a free slot, or the number of slots. -/
  lowestFree_eq : p.lowestFree = p.slots.findIdx Slot.isFree

variable {p : Pool}

namespace IsLaidOut

theorem length_slots (h : p.IsLaidOut) :
    p.slots.length = p.last.toNat + 1 - p.first.toNat := by
  rw [← length_portsOf, ← h.ports_eq, List.length_map]

theorem nodup_ports (h : p.IsLaidOut) : (p.slots.map Slot.port).Nodup :=
  h.ports_eq ▸ nodup_portsOf p.first p.last

/-- A slot is as far from the first one as its port from the first port. -/
theorem toNat_port (h : p.IsLaidOut) {i : Nat} {s : Slot} (hs : p.slots[i]? = some s) :
    s.port.toNat = p.first.toNat + i := by
  have hport : (portsOf p.first p.last)[i]? = some s.port := by
    rw [← h.ports_eq, List.getElem?_map, hs]
    rfl
  exact toNat_of_getElem?_portsOf hport

/-- The lowest free position is one of a slot, or the number of slots. -/
theorem lowestFree_le (h : p.IsLaidOut) : p.lowestFree ≤ p.slots.length :=
  h.lowestFree_eq ▸ List.findIdx_le_length

end IsLaidOut

theorem isLaidOut_of_new {first last : UInt16} {timeout : Span}
    (h : Pool.new first last timeout = .ok p) : p.IsLaidOut := by
  unfold Pool.new at h
  split at h
  · cases h
  · rename_i hle
    cases h
    refine ⟨UInt16.not_lt.mp hle, ?_, ?_⟩
    · rw [freeSlots, List.map_map]
      rfl
    · show 0 = (List.map _ _).findIdx Slot.isFree
      cases List.range' first.toNat (last.toNat + 1 - first.toNat) <;> rfl

/-- A sweep takes the lowest free position down to the first slot that it
frees, if that is lower. -/
theorem IsLaidOut.lowestFree_expire (h : p.IsLaidOut) (now : Instant) :
    (p.expire now).2.lowestFree
      = min p.lowestFree (p.slots.findIdx fun s => s.isExpired p.timeout now) := by
  unfold Pool.expire
  dsimp only
  split
  · rename_i i hi
    obtain ⟨-, rfl⟩ := List.findIdx?_eq_some_iff_findIdx_eq.mp hi
    exact Nat.min_comm _ _
  · rename_i hi
    rw [List.findIdx?_eq_none_iff_findIdx_eq.mp hi]
    exact (Nat.min_eq_left h.lowestFree_le).symm

/-- **A sweep keeps the layout.** -/
theorem IsLaidOut.expire (h : p.IsLaidOut) (now : Instant) : (p.expire now).2.IsLaidOut := by
  refine ⟨h.ordered, ?_, ?_⟩
  · show (p.slots.map (sweepSlot p.timeout now)).map Slot.port = portsOf p.first p.last
    rw [List.map_map, ← h.ports_eq]
    exact List.map_congr_left (fun s _ => Slot.port_sweepSlot p.timeout now s)
  · rw [h.lowestFree_expire]
    show _ = (p.slots.map (sweepSlot p.timeout now)).findIdx Slot.isFree
    rw [List.findIdx_map]
    have hfree : Slot.isFree ∘ sweepSlot p.timeout now
        = fun s => s.isFree || s.isExpired p.timeout now :=
      funext (fun s => Slot.isFree_sweepSlot p.timeout now s)
    rw [hfree, findIdx_or, ← h.lowestFree_eq]

theorem IsLaidOut.sweep (h : p.IsLaidOut) (now : Instant) : (p.sweep now).IsLaidOut :=
  h.expire now

/-- The slot that is free and lowest is the one that a grant takes. -/
theorem IsLaidOut.find?_isFree (h : p.IsLaidOut) :
    p.slots.find? Slot.isFree = p.slots[p.lowestFree]? := by
  rw [h.lowestFree_eq, List.find?_eq_getElem?_findIdx]

/-- A slot put in the place of one is that one changed. -/
theorem set_eq_modify {slots : List Slot} {i : Nat} {s : Slot} (hs : slots[i]? = some s)
    (f : Slot → Slot) : slots.set i (f s) = slots.modify i f := by
  rw [List.modify_eq_set_getElem?, hs]
  rfl

/-- The pool after the slot at `lowestFree` has been given to `name`. -/
def grant (p : Pool) (slot : Slot) (name : String) (now : Instant) : Pool :=
  { p with
    slots := p.slots.set p.lowestFree (slot.reserve name now)
    lowestFree := nextFree (p.slots.set p.lowestFree (slot.reserve name now)) (p.lowestFree + 1) }

/-- **What asking for a port comes to**: after a sweep, the lowest free slot is
given out, if there is one. -/
theorem IsLaidOut.allocate_eq (h : p.IsLaidOut) (name : String) (now : Instant) :
    p.allocate name now = match (p.sweep now).slots.find? Slot.isFree with
      | none => (.allBusy, p.sweep now)
      | some slot => (.granted slot.port, (p.sweep now).grant slot name now) := by
  rw [(h.sweep now).find?_isFree]
  unfold Pool.allocate
  dsimp only
  cases (p.sweep now).slots[(p.sweep now).lowestFree]? <;> rfl

/-- **A grant keeps the layout**: the lowest free position goes up to the next
free slot. -/
theorem IsLaidOut.grant (h : p.IsLaidOut) {slot : Slot}
    (hs : p.slots.find? Slot.isFree = some slot) (name : String) (now : Instant) :
    (p.grant slot name now).IsLaidOut := by
  rw [h.find?_isFree] at hs
  obtain ⟨hi, -⟩ := List.getElem?_eq_some_iff.mp hs
  refine ⟨h.ordered, ?_, ?_⟩
  · show (p.slots.set p.lowestFree (slot.reserve name now)).map Slot.port
      = portsOf p.first p.last
    rw [set_eq_modify hs (·.reserve name now),
      map_port_modify (fun s => Slot.port_reserve s name now), h.ports_eq]
  · show nextFree (p.slots.set p.lowestFree (slot.reserve name now)) (p.lowestFree + 1)
      = (p.slots.set p.lowestFree (slot.reserve name now)).findIdx Slot.isFree
    -- the search begins after the slot that was taken, and does not see the change
    rw [nextFree, List.drop_set_of_lt (Nat.lt_succ_self _)]
    rw [h.lowestFree_eq] at hi ⊢
    exact (findIdx_set_findIdx rfl hi).symm

theorem IsLaidOut.allocate (h : p.IsLaidOut) (name : String) (now : Instant) :
    (p.allocate name now).2.IsLaidOut := by
  rw [h.allocate_eq]
  split
  · exact h.sweep now
  · rename_i slot hs
    exact (h.sweep now).grant hs name now

/-- The position at which a name holds a port is the one of a slot with this
port and this holder. -/
theorem IsLaidOut.slot_of_heldAt? (h : p.IsLaidOut) {port : UInt16} {name : String} {i : Nat}
    (hi : p.heldAt? port name = some i) :
    ∃ s, p.slots[i]? = some s ∧ s.port = port ∧ s.isHeldBy name = true := by
  unfold heldAt? at hi
  split at hi
  · cases hi
  · rename_i hrange
    dsimp only at hi
    split at hi
    · rename_i s hs
      split at hi
      · rename_i hheld
        obtain rfl := Option.some.inj hi
        refine ⟨s, hs, ?_, hheld⟩
        -- the position is the distance of the port, and this is the one of the slot's port
        have hport := h.toNat_port hs
        rw [not_or, UInt16.not_lt, UInt16.not_lt, UInt16.le_iff_toNat_le] at hrange
        apply UInt16.toNat_inj.mp
        omega
      · cases hi
    · cases hi

/-- And the other way round: the port of a slot is looked for at its position. -/
theorem IsLaidOut.heldAt?_port (h : p.IsLaidOut) {i : Nat} {s : Slot} (hs : p.slots[i]? = some s)
    (name : String) : p.heldAt? s.port name = if s.isHeldBy name then some i else none := by
  have hport := h.toNat_port hs
  obtain ⟨hi, -⟩ := List.getElem?_eq_some_iff.mp hs
  rw [h.length_slots] at hi
  have hrange : ¬(s.port < p.first ∨ p.last < s.port) := by
    rw [UInt16.lt_iff_toNat_lt, UInt16.lt_iff_toNat_lt]
    omega
  have hidx : s.port.toNat - p.first.toNat = i := by omega
  rw [heldAt?, if_neg hrange]
  dsimp only
  rw [hidx, hs]

/-- A slot changed whose port and freeness stay keeps the layout. -/
theorem IsLaidOut.renew (h : p.IsLaidOut) (port : UInt16) (name : String) (now : Instant) :
    (p.renew port name now).2.IsLaidOut := by
  unfold Pool.renew
  split
  · rename_i i hi
    refine ⟨h.ordered, ?_, ?_⟩
    · show (p.slots.modify i (·.renew now)).map Slot.port = portsOf p.first p.last
      rw [map_port_modify (fun s => Slot.port_renew s now), h.ports_eq]
    · show p.lowestFree = (p.slots.modify i (·.renew now)).findIdx Slot.isFree
      rw [findIdx_congr_map (fun s => Slot.isFree_renew s now), h.lowestFree_eq]
  · exact h

/-- **A release keeps the layout**: the lowest free position goes down to the
released slot, if that is lower. -/
theorem IsLaidOut.release (h : p.IsLaidOut) (port : UInt16) (name : String) :
    (p.release port name).2.IsLaidOut := by
  unfold Pool.release
  split
  · rename_i i hi
    obtain ⟨s, hs, -, -⟩ := h.slot_of_heldAt? hi
    obtain ⟨hlt, -⟩ := List.getElem?_eq_some_iff.mp hs
    refine ⟨h.ordered, ?_, ?_⟩
    · show (p.slots.modify i Slot.release).map Slot.port = portsOf p.first p.last
      rw [map_port_modify Slot.port_release, h.ports_eq]
    · show min i p.lowestFree = (p.slots.modify i Slot.release).findIdx Slot.isFree
      rw [findIdx_modify_of_true Slot.isFree_release hlt, h.lowestFree_eq]
  · exact h

/-- **Every operation keeps the layout.** -/
theorem IsLaidOut.step (h : p.IsLaidOut) (op : Op) : (p.step op).2.IsLaidOut := by
  cases op with
  | allocate name now => exact h.allocate name now
  | renew port name now => exact h.renew port name now
  | release port name => exact h.release port name
  | lookup name now => exact h.sweep now
  | expire now => exact h.expire now
  | stop => exact ⟨h.ordered, h.ports_eq, h.lowestFree_eq⟩

theorem run_cons (p : Pool) (op : Op) (ops : List Op) :
    p.run (op :: ops)
      = ((p.step op).1 :: ((p.step op).2.run ops).1, ((p.step op).2.run ops).2) := rfl

/-- **So does every history.** -/
theorem IsLaidOut.run (h : p.IsLaidOut) (ops : List Op) : (p.run ops).2.IsLaidOut := by
  induction ops generalizing p with
  | nil => exact h
  | cons op ops ih =>
    rw [run_cons]
    exact ih (h.step op)

end Pool

end Moorings.Lease
