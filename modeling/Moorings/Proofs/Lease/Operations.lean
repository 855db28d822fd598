import Moorings.Lease.Service
import Moorings.Proofs.Lease.Register

/-!
# A message is an operation

What the service does with a message is to perform one operation on its pool
and to put the answer into words, or to perform none and to say that the
message makes no sense (`Service.handle_eq`). So the pools that a service can
come to have are pools after a history of operations
(`Service.snd_handleAll`), and everything that holds of those holds of them.

Not every operation is asked for by a message. No message sweeps the pool
without asking anything else of it, and none asks for a port in nobody's name.
-/

namespace Moorings.Lease

namespace Service

/-- **The operation that a message asks for**, if it asks for one. -/
def operation? (now : Instant) (m : Message) : Option Pool.Op :=
  match m.kind with
  | .requestPort => if m.name = "" then none else some (.allocate m.name now)
  | .keepAlive => some (.renew m.port m.name now)
  | .closePort => some (.release m.port m.name)
  | .lookupPort => some (.lookup m.name now)
  | .stop => some .stop
  | .response => none

/-- The reply that passes an answer on. There is none to a sweep, which no message
asks for. -/
def replyOf (m : Message) : Pool.Answer → Message
  | .grant (.granted port) | .found (some port) => .response m.name port .success
  | .grant .allBusy => .response m.name 0 .allPortsBusy
  | .found none => .response m.name 0 .serviceNotFound
  | .outcome outcome => .response m.name m.port (statusOf outcome)
  | .done | .reclaimed _ => .response "" 0 .success

/-- **The reply to a message is the answer to its operation**, and the pool is the
one after it. A message that asks for none changes nothing. -/
theorem handle_eq (pool : Pool) (now : Instant) (m : Message) :
    handle pool now m = match operation? now m with
      | some op => (replyOf m (pool.step op).1, (pool.step op).2)
      | none => (.undefinedError, pool) := by
  unfold handle operation?
  cases m.kind with
  | requestPort =>
    dsimp only
    by_cases hname : m.name = ""
    · rw [if_pos hname, if_pos hname]
    · rw [if_neg hname, if_neg hname]
      dsimp only [Pool.step]
      rcases pool.allocate m.name now with ⟨port | _, after⟩ <;> rfl
  | lookupPort =>
    dsimp only [Pool.step]
    rcases pool.lookup m.name now with ⟨_ | port, after⟩ <;> rfl
  | keepAlive => rfl
  | closePort => rfl
  | stop => rfl
  | response => rfl

theorem handle_of_operation? {now : Instant} {m : Message} {op : Pool.Op}
    (h : operation? now m = some op) (pool : Pool) :
    handle pool now m = (replyOf m (pool.step op).1, (pool.step op).2) := by
  rw [handle_eq, h]

/-- The operations that messages ask for, in order. -/
def operations (ms : List (Instant × Message)) : List Pool.Op :=
  ms.filterMap fun m => operation? m.1 m.2

/-- **No message asks for a port in nobody's name.** -/
theorem allocate_notMem_operations (ms : List (Instant × Message)) (now : Instant) :
    Pool.Op.allocate "" now ∉ operations ms := by
  intro h
  obtain ⟨m, -, hop⟩ := List.mem_filterMap.mp h
  unfold operation? at hop
  split at hop
  · split at hop
    · cases hop
    · rename_i hname
      exact hname (Pool.Op.allocate.inj (Option.some.inj hop)).1
  all_goals cases hop

/-- **The pool after messages** is the one after their operations. -/
theorem snd_handleAll (pool : Pool) (ms : List (Instant × Message)) :
    (handleAll pool ms).2 = (pool.run (operations ms)).2 := by
  induction ms generalizing pool with
  | nil => rfl
  | cons m ms ih =>
    show (handleAll (handle pool m.1 m.2).2 ms).2 = _
    rw [ih, handle_eq, operations, operations, List.filterMap_cons]
    cases operation? m.1 m.2 with
    | none => rfl
    | some op => rfl

/-- **A service keeps its pool laid out.** -/
theorem isLaidOut_handleAll {pool : Pool} (h : pool.IsLaidOut) (ms : List (Instant × Message)) :
    (handleAll pool ms).2.IsLaidOut := by
  rw [snd_handleAll]
  exact h.run (operations ms)

/-- **Nor does it ever have other ports.** -/
theorem range_handleAll {pool : Pool} (h : pool.IsLaidOut) (ms : List (Instant × Message)) :
    (handleAll pool ms).2.first = pool.first ∧ (handleAll pool ms).2.last = pool.last := by
  rw [snd_handleAll]
  exact h.range_run (operations ms)

end Service

end Moorings.Lease
