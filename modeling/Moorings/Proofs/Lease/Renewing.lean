import Moorings.Lease.Renewal
import Moorings.Proofs.Lease.UntilStop
import Moorings.Proofs.Lease.Delivery

/-!
# A lease is renewed until it is reported lost

Ending too early and ending too late are both harmful: a server that stops renewing loses
a port that it still uses, and one that goes on renews what may be somebody else's by now.
So it matters which answers end the renewing, and an answer may be anything.

`TellsLoss` says which do: a refusal under the same name and about the same port, or one
that does not say whose request it is about. It looks at the datagram alone, and knows
nothing of waiting, of retrying, or of the size to which a datagram is cut. Three things
stand between it and the task: what the client takes for the answer to a renewal, what it
makes of a refusal, and what the task makes of a failure. `isLost_call_iff` goes through
them once and for all.

`Lasts` tells the course of a whole task in the same manner, and `renewed_until_lost` says
that this is the course it takes.
-/

namespace Moorings.Lease.Renewal

open Text (utf8)

/-! ## Answers that end the renewing -/

/-- **A reply that says that a lease is lost.** -/
def IsLoss (name : String) (port : UInt16) (reply : Message) : Prop :=
  reply.kind = .response ∧ reply.status ≠ .success
    ∧ (reply.name = name ∧ reply.port = port ∨ reply.name = "" ∧ reply.status = .undefinedError)

/-- **An answer that says so**: there is one, it is legible, and it is such a reply. -/
def TellsLoss (name : String) (port : UInt16) (answer : Option Bytes) : Prop :=
  ∃ datagram ∈ answer, ∃ reply, Message.decode datagram = .ok reply ∧ IsLoss name port reply

variable {name : String} {port : UInt16} {answer : Option Bytes} {datagram : Bytes}
  {reply : Message}

/-- What is received of a datagram is read as the datagram is. -/
theorem decode_received_eq_ok_iff :
    Message.decode (received datagram) = .ok reply ↔ Message.decode datagram = .ok reply := by
  have hread := Service.decode_received datagram
  unfold Service.message? at hread
  cases hcut : Message.decode (received datagram) with
  | error error =>
    cases hwhole : Message.decode datagram with
    | error error' => exact iff_of_false nofun nofun
    | ok m => rw [hcut, hwhole] at hread; cases hread
  | ok m =>
    cases hwhole : Message.decode datagram with
    | error error' => rw [hcut, hwhole] at hread; cases hread
    | ok m' => rw [hcut, hwhole] at hread; cases hread; rfl

/-- **A loss is a refusal that answers the renewal.** -/
theorem isLoss_iff :
    IsLoss name port reply ↔ reply.kind = .response
      ∧ answers ((Call.keepAlive port).request name) reply = true ∧ reply.status ≠ .success := by
  have hanswers : answers ((Call.keepAlive port).request name) reply = true
      ↔ reply.name = name ∧ reply.port = port
        ∨ reply.name = "" ∧ reply.status = .undefinedError := by
    rw [answers_eq_true_iff, or_comm]
    exact or_congr (and_congr_right fun _ => ⟨fun h => h (.inl rfl), fun h _ => h⟩) and_comm
  rw [hanswers, IsLoss]
  exact and_congr_right fun _ => and_comm

/-- A reply is a refusal exactly if its call fails with a status. -/
theorem isLost_conclude_ok (reply : Message) :
    isLost (conclude (.ok reply)) = true ↔ reply.status ≠ .success := by
  show isLost (expectSuccess reply) = true ↔ _
  unfold expectSuccess
  split
  · rename_i hsuccess
    exact iff_of_false nofun fun hstatus => hstatus hsuccess
  · rename_i hstatus
    exact iff_of_true rfl hstatus

/-- What is no reply to a request is no refusal of it. -/
theorem isLost_of_verdict_error {request : Message} {error : ClientError}
    (h : verdict request datagram = some (.error error)) :
    isLost (conclude (.error error)) = false := by
  unfold verdict at h
  split at h
  · cases h
    rfl
  · split at h
    · cases h
      rfl
    · split at h <;> cases h

/-- An answer tells of a loss exactly if the client takes it for a reply to its renewal,
and it is a refusal. -/
theorem tellsLoss_some_iff :
    TellsLoss name port (some datagram)
      ↔ ∃ reply, verdict ((Call.keepAlive port).request name) datagram = some (.ok reply)
        ∧ reply.status ≠ .success := by
  unfold TellsLoss
  simp only [Option.mem_some_iff, exists_eq_left', isLoss_iff, verdict_eq_ok_iff,
    decode_received_eq_ok_iff, and_assoc]

/-- **What an answer makes of a renewal**: the lease is lost exactly if the answer says
so. -/
theorem isLost_call_iff (s : Socket) (port : UInt16) (answer : Option Bytes)
    (late : List Bytes) :
    isLost (s.call (.keepAlive port) answer.toList late).1 = true
      ↔ TellsLoss s.client.name port answer := by
  rw [Socket.call_fst]
  cases answer with
  | none => exact iff_of_false nofun nofun
  | some datagram =>
    rw [Option.toList_some, List.findSome?_singleton, tellsLoss_some_iff]
    cases hverdict : verdict ((Call.keepAlive port).request s.client.name) datagram with
    | none => exact iff_of_false nofun nofun
    | some result =>
      rw [Option.getD_some]
      cases result with
      | error error =>
        rw [isLost_of_verdict_error hverdict]
        exact iff_of_false nofun nofun
      | ok reply =>
        rw [isLost_conclude_ok]
        refine ⟨fun hstatus => ⟨reply, rfl, hstatus⟩, ?_⟩
        rintro ⟨_, ⟨⟩, hstatus⟩
        exact hstatus

/-! ## The course of the task -/

/-- **An interval after which the renewing goes on.** -/
def Interval.GoesOn (name : String) (port : UInt16) : Interval → Prop
  | cutShort => False
  | passed answer _ => ¬TellsLoss name port answer

/-- **How long a lease is renewed**: how many renewals are sent over some intervals, and
how the renewing has ended with the last of them. -/
inductive Lasts (name : String) (port : UInt16) : List Interval → ℕ → Option Ending → Prop
  /-- Nothing has ended it yet. -/
  | goesOn {intervals : List Interval}
      (hall : ∀ interval ∈ intervals, interval.GoesOn name port) :
      Lasts name port intervals intervals.length none
  /-- It ends at the first answer that tells of a loss. -/
  | lost {before after : List Interval} {answer : Option Bytes} {late : List Bytes}
      (hbefore : ∀ interval ∈ before, interval.GoesOn name port)
      (hloss : TellsLoss name port answer) :
      Lasts name port (before ++ .passed answer late :: after) (before.length + 1) (some .lost)
  /-- It ends at the word to stop. -/
  | stopped {before after : List Interval}
      (hbefore : ∀ interval ∈ before, interval.GoesOn name port) :
      Lasts name port (before ++ .cutShort :: after) before.length (some .stopped)

variable {interval : Interval} {intervals before : List Interval} {n : ℕ}
  {ending : Option Ending}

/-- One more interval at the beginning. -/
theorem Lasts.cons (hfirst : interval.GoesOn name port) (h : Lasts name port intervals n ending) :
    Lasts name port (interval :: intervals) (n + 1) ending := by
  cases h with
  | goesOn hall => exact .goesOn (List.forall_mem_cons.mpr ⟨hfirst, hall⟩)
  | lost hbefore hloss => exact .lost (List.forall_mem_cons.mpr ⟨hfirst, hbefore⟩) hloss
  | stopped hbefore => exact .stopped (List.forall_mem_cons.mpr ⟨hfirst, hbefore⟩)

/-- One of the three is the case. -/
theorem exists_lasts (name : String) (port : UInt16) (intervals : List Interval) :
    ∃ n ending, Lasts name port intervals n ending := by
  induction intervals with
  | nil => exact ⟨_, _, .goesOn (List.forall_mem_nil _)⟩
  | cons interval rest ih =>
    obtain ⟨n, ending, hrest⟩ := ih
    cases interval with
    | cutShort => exact ⟨0, _, @Lasts.stopped name port [] rest (List.forall_mem_nil _)⟩
    | passed answer late =>
      by_cases hloss : TellsLoss name port answer
      · exact ⟨1, _, @Lasts.lost name port [] rest answer late (List.forall_mem_nil _) hloss⟩
      · exact ⟨_, _, hrest.cons hloss⟩

/-- At an interval that does not end it, the task renews the lease and goes on, with
whatever is left over at its socket. -/
theorem keep_cons {s : Socket} (h : interval.GoesOn s.client.name port) (rest : List Interval) :
    ∃ queued, keep s port (interval :: rest)
      = { sent := .request .keepAlive s.client.name port
            :: (keep { s with queued } port rest).sent
          ending := (keep { s with queued } port rest).ending } := by
  cases interval with
  | cutShort => exact h.elim
  | passed answer late =>
    have hgoes := mt (isLost_call_iff s port answer late).mp h
    let waited := await s.client.patience ((Call.keepAlive port).request s.client.name)
      answer.toList
    refine ⟨waited.2 ++ late, ?_⟩
    rw [Socket.call_eq] at hgoes
    rw [keep, Socket.call_eq]
    exact if_neg hgoes

/-- At an answer that tells of a loss it ends. -/
theorem keep_of_tellsLoss {s : Socket} (h : TellsLoss s.client.name port answer)
    (late : List Bytes) (rest : List Interval) :
    keep s port (.passed answer late :: rest)
      = { sent := [.request .keepAlive s.client.name port], ending := some .lost } := by
  rw [keep]
  exact if_pos ((isLost_call_iff s port answer late).mpr h)

/-- It does not end at any number of intervals after which it goes on. -/
theorem keep_append {s : Socket} (h : ∀ interval ∈ before, interval.GoesOn s.client.name port)
    (rest : List Interval) :
    ∃ queued, keep s port (before ++ rest)
      = { sent := List.replicate before.length (.request .keepAlive s.client.name port)
            ++ (keep { s with queued } port rest).sent
          ending := (keep { s with queued } port rest).ending } := by
  induction before generalizing s with
  | nil => exact ⟨s.queued, rfl⟩
  | cons interval before ih =>
    obtain ⟨hfirst, hbefore⟩ := List.forall_mem_cons.mp h
    obtain ⟨queued, hcons⟩ := keep_cons hfirst (before ++ rest)
    obtain ⟨queued', happend⟩ := ih (s := { s with queued }) hbefore
    refine ⟨queued', ?_⟩
    rw [List.cons_append, hcons, happend]
    rfl

/-- **The task takes its course.** -/
theorem keep_of_lasts {s : Socket} (h : Lasts s.client.name port intervals n ending) :
    keep s port intervals
      = { sent := List.replicate n (.request .keepAlive s.client.name port), ending } := by
  cases h with
  | goesOn hall =>
    obtain ⟨queued, happend⟩ := keep_append hall []
    rw [List.append_nil] at happend
    rw [happend, keep, List.append_nil]
  | @lost before after answer late hbefore hloss =>
    obtain ⟨queued, happend⟩ := keep_append hbefore (.passed answer late :: after)
    rw [happend, keep_of_tellsLoss (s := { s with queued }) hloss late after, List.replicate_succ']
  | @stopped before after hbefore =>
    obtain ⟨queued, happend⟩ := keep_append hbefore (.cutShort :: after)
    rw [happend, keep, List.append_nil]

/-- What arrives late makes no difference, and as long as nobody says to stop, the answers
decide alone. -/
theorem run_eq_keep (s : Socket) (port : UInt16) (heard : List (Option Bytes × List Bytes)) :
    run s.client port (heard.map Prod.fst)
      = { sent := (keep s port (heard.map fun h => .passed h.1 h.2)).sent
          isLost := decide
            ((keep s port (heard.map fun h => .passed h.1 h.2)).ending = some .lost) } := by
  induction heard generalizing s with
  | nil => rfl
  | cons h heard ih =>
    obtain ⟨answer, late⟩ := h
    have honce : once s.client port answer = (s.call (.keepAlive port) answer.toList late).1 := by
      rw [Socket.call_eq]
      rfl
    have hclient : (s.call (.keepAlive port) answer.toList late).2.client = s.client := by
      rw [Socket.call_eq]
    have hrest := ih (s.call (.keepAlive port) answer.toList late).2
    rw [hclient] at hrest
    rw [List.map_cons, List.map_cons, run, keep, honce]
    dsimp only
    split
    · rfl
    · rw [hrest]

/-- **What does not end the renewing**: no answer at all, one that is not legible, one
that is no reply, a success, and a reply to somebody else. -/
theorem not_tellsLoss_iff :
    ¬TellsLoss name port answer ↔ ∀ datagram ∈ answer,
      (∃ error, Message.decode datagram = .error error)
        ∨ ∃ reply, Message.decode datagram = .ok reply
          ∧ (reply.kind ≠ .response ∨ reply.status = .success
            ∨ (reply.name ≠ name ∨ reply.port ≠ port)
              ∧ ¬(reply.name = "" ∧ reply.status = .undefinedError)) := by
  unfold TellsLoss
  rw [not_exists]
  refine forall_congr' fun datagram => ?_
  rw [not_and]
  refine imp_congr_right fun _ => ?_
  cases hdecode : Message.decode datagram with
  | error error => exact iff_of_true nofun (.inl ⟨error, rfl⟩)
  | ok reply =>
    simp only [Except.ok.injEq, exists_eq_left', reduceCtorEq, exists_false, false_or, IsLoss,
      not_and_or, not_or, not_not]

/-- **A lease is renewed until it is reported lost**, or until the word to stop comes,
whatever arrives for each renewal and whatever arrives late. At every interval the same
message is sent. The task ends by itself at the first answer that tells of a loss, and at
no other: not if there is none, nor at one that is not legible, as one that is too long is
not; nor at one that is no reply, at a success, or at a reply under another name or about
another port, whatever it says, unless it is the one that does not say whose request it is
about. Nothing but the word to stop ends it otherwise. -/
theorem renewed_until_lost (s : Socket) (port : UInt16) (intervals : List Interval) :
    let name := s.client.name
    let renewal := Message.request .keepAlive name port
    let course := keep s port intervals
    (∃ n ending, course = { sent := List.replicate n renewal, ending })
      ∧ (∀ n ending, course = { sent := List.replicate n renewal, ending }
        ↔ Lasts name port intervals n ending)
      ∧ (∀ answer, ¬TellsLoss name port answer ↔ ∀ datagram ∈ answer,
        (∃ error, Message.decode datagram = .error error)
          ∨ ∃ reply, Message.decode datagram = .ok reply
            ∧ (reply.kind ≠ .response ∨ reply.status = .success
              ∨ (reply.name ≠ name ∨ reply.port ≠ port)
                ∧ ¬(reply.name = "" ∧ reply.status = .undefinedError)))
      ∧ ∀ heard : List (Option Bytes × List Bytes),
        let course := keep s port (heard.map fun h => .passed h.1 h.2)
        run s.client port (heard.map Prod.fst)
          = { sent := course.sent, isLost := decide (course.ending = some .lost) } := by
  intro name renewal course
  obtain ⟨n, ending, hlasts⟩ := exists_lasts name port intervals
  have hcourse : course = { sent := List.replicate n renewal, ending } := keep_of_lasts hlasts
  refine ⟨⟨n, ending, hcourse⟩, fun n' ending' => ⟨fun h => ?_, keep_of_lasts⟩,
    fun answer => not_tellsLoss_iff, run_eq_keep s port⟩
  -- the same renewal n times and n' times, so n is n'
  obtain ⟨hsent, rfl⟩ := Course.mk.inj (hcourse.symm.trans h)
  obtain rfl := List.replicate_left_injective _ hsent
  exact hlasts

/-- A refusal that comes too late, one about another port, and bytes that are no message
do not end it. The error that does not say whose request it is about does. -/
example :
    keep { client := { name := "X", patience := ⟨0⟩ }, queued := [] } 1
        [.passed none [utf8 "RESPONSE\nX\n1\nSERVICE_NOT_FOUND\n"],
          .passed (some (utf8 "RESPONSE\nX\n2\nSERVICE_NOT_FOUND\n")) [],
          .passed (some (utf8 "?")) [],
          .passed (some (utf8 "RESPONSE\n\n0\nUNDEFINED_ERROR\n")) [], .cutShort]
      = { sent := List.replicate 4 (.request .keepAlive "X" 1), ending := some .lost } := by
  decide +kernel

end Moorings.Lease.Renewal
