import Moorings.Session.Response
import Mathlib.Data.List.TakeWhile

/-!
# What is read does not depend on what comes after

A buffer ends where the last piece of the stream happened to end, and is read
again from its front when the next piece has come. Nothing is lost by reading
early: what has been read stays read, and what was not legible does not become
legible. `Scan.Stable` says so of a scan. It composes, as `Scan.Composes` puts it, and so
it holds of everything that is put together from lines and bytes, requests and responses
among them (`Request.scan_of_composes`, `Response.scan_of_composes`).

For a line this is the question of where it becomes too long. A line that is
not finished fails by a test of its own, one byte later than a finished one,
because its last byte may be the carriage return before its end. That the two
tests agree is `stable_line`.

The other property of this kind is that a scan never blames the transport,
which is why every failure of a scan is answered.
-/

namespace Moorings.Session

namespace Scan

variable {α β : Type}

/-! ## Lines -/

/-- Taking the carriage return off makes a line shorter by one byte at most. -/
theorem length_le_withoutReturn (line : Bytes) :
    line.length ≤ (withoutReturn line).length + 1 := by
  unfold withoutReturn
  split
  · rw [List.length_dropLast]
    omega
  · exact Nat.le_succ _

/-- **A finished line** is measured without its carriage return. -/
theorem line_of_finished {front : Bytes} (h : lineFeed ∉ front) (rest : Bytes) :
    line (front ++ lineFeed :: rest)
      = if maxLine < (withoutReturn front).length then .fail (.lineTooLong maxLine)
        else .done (withoutReturn front) rest := by
  have hfront : ∀ b ∈ front, (b != lineFeed) = true := by
    intro b hb
    rw [bne_iff_ne]
    exact fun e => h (e ▸ hb)
  unfold line
  rw [List.dropWhile_append_of_pos hfront, List.dropWhile_cons_of_neg (by simp),
    List.takeWhile_append_of_pos hfront, List.takeWhile_cons_of_neg (by simp), List.append_nil]

/-- **An unfinished line** is measured as it is. -/
theorem line_of_unfinished {buffer : Bytes} (h : lineFeed ∉ buffer) :
    line buffer = if maxLine + 1 < buffer.length then .fail (.lineTooLong maxLine) else .more := by
  have hall : buffer.dropWhile (· != lineFeed) = [] := by
    rw [List.dropWhile_eq_nil_iff]
    intro b hb
    rw [bne_iff_ne]
    exact fun e => h (e ▸ hb)
  unfold line
  rw [hall]

/-! ## Scans put together -/

/-- **A property of scans that composes**: it holds of lines, of bytes and of
what reads nothing, and passes to one scan after another. A failure has it
unless it blames the transport. -/
structure Composes (P : ∀ ⦃α : Type⦄, Scan α → Prop) : Prop where
  pure : ∀ {α : Type} (a : α), P (pure a : Scan α)
  bind : ∀ {α β : Type} {scan : Scan α} {next : α → Scan β},
    P scan → (∀ a, P (next a)) → P (scan >>= next)
  line : P line
  bytes : ∀ n, P (bytes n)
  fail : ∀ {α : Type} {error : ProtocolError}, error.isTransport = false →
    P (fail error : Scan α)

/-! ## Stable scans -/

/-- **A scan whose outcome more bytes do not change**, unless it asks for
them. -/
structure Stable (scan : Scan α) : Prop where
  /-- What has been read stays read, and more bytes are left. -/
  done : ∀ {buffer : Bytes} {a : α} {rest : Bytes}, scan buffer = .done a rest →
    ∀ more, scan (buffer ++ more) = .done a (rest ++ more)
  /-- What was not legible stays so. -/
  fail : ∀ {buffer : Bytes} {error : ProtocolError}, scan buffer = .fail error →
    ∀ more, scan (buffer ++ more) = .fail error

theorem stable_pure (a : α) : (pure a : Scan α).Stable := by
  refine ⟨fun h more => ?_, fun e => by cases e⟩
  rw [pure_eq] at h ⊢
  cases h
  rfl

theorem stable_fail (error : ProtocolError) : (Scan.fail error : Scan α).Stable :=
  ⟨(fun e => by cases e), fun h _ => h⟩

/-- One stable scan after another. -/
theorem Stable.bind {scan : Scan α} {next : α → Scan β} (h : scan.Stable)
    (hnext : ∀ a, (next a).Stable) : (scan >>= next).Stable := by
  constructor
  · intro buffer b rest e more
    rw [bind_eq] at e ⊢
    cases hs : scan buffer with
    | more => rw [hs] at e; cases e
    | fail error => rw [hs] at e; cases e
    | done a middle =>
      rw [hs] at e
      rw [h.done hs more]
      exact (hnext a).done e more
  · intro buffer error e more
    rw [bind_eq] at e ⊢
    cases hs : scan buffer with
    | more => rw [hs] at e; cases e
    | fail error' =>
      rw [hs] at e
      rw [h.fail hs more]
      exact e
    | done a middle =>
      rw [hs] at e
      rw [h.done hs more]
      exact (hnext a).fail e more

/-- **Lines are stable**: an unfinished line that is too long is too long
wherever it may end. -/
theorem stable_line : line.Stable := by
  constructor
  · intro buffer a rest e more
    by_cases hmem : lineFeed ∈ buffer
    · obtain ⟨front, rest', rfl, hfront⟩ := List.eq_append_cons_of_mem hmem
      rw [line_of_finished hfront] at e
      rw [List.append_assoc, List.cons_append, line_of_finished hfront]
      split at e
      · cases e
      · rename_i hlong
        cases e
        rw [if_neg hlong]
    · rw [line_of_unfinished hmem] at e
      split at e <;> cases e
  · intro buffer error e more
    by_cases hmem : lineFeed ∈ buffer
    · obtain ⟨front, rest', rfl, hfront⟩ := List.eq_append_cons_of_mem hmem
      rw [line_of_finished hfront] at e
      rw [List.append_assoc, List.cons_append, line_of_finished hfront]
      split at e
      · rename_i hlong
        cases e
        rw [if_pos hlong]
      · cases e
    · rw [line_of_unfinished hmem] at e
      split at e
      · rename_i hlong
        cases e
        by_cases hmore : lineFeed ∈ more
        · -- the line is finished by what comes, and no byte of it was too few
          obtain ⟨front, rest', rfl, hfront⟩ := List.eq_append_cons_of_mem hmore
          have hline : lineFeed ∉ buffer ++ front := by
            rw [List.mem_append]
            exact fun hor => hor.elim hmem hfront
          have hlength := length_le_withoutReturn (buffer ++ front)
          rw [List.length_append] at hlength
          rw [← List.append_assoc, line_of_finished hline, if_pos (by omega)]
        · have hline : lineFeed ∉ buffer ++ more := by
            rw [List.mem_append]
            exact fun hor => hor.elim hmem hmore
          rw [line_of_unfinished hline, if_pos (by rw [List.length_append]; omega)]
      · cases e

theorem stable_bytes (n : Nat) : (bytes n).Stable := by
  constructor
  · intro buffer a rest e more
    unfold bytes at e ⊢
    split at e
    · cases e
    · rename_i hn
      cases e
      rw [if_neg (by rw [List.length_append]; omega),
        List.take_append_of_le_length (Nat.le_of_not_lt hn),
        List.drop_append_of_le_length (Nat.le_of_not_lt hn)]
  · intro buffer error e
    unfold bytes at e
    split at e <;> cases e

/-- **Of the front of what is read** nothing is read, if some bytes of it are missing. -/
theorem Stable.more_of_front {scan : Scan α} (h : scan.Stable) {front back rest : Bytes} {a : α}
    (hread : scan (front ++ back) = .done a rest) (hmissing : rest.length < back.length) :
    scan front = .more := by
  cases hscan : scan front with
  | more => rfl
  | fail error => cases (h.fail hscan back).symm.trans hread
  | done a' rest' =>
    -- then all of the missing bytes would be left
    obtain ⟨-, rfl⟩ := Reading.done.inj ((h.done hscan back).symm.trans hread)
    rw [List.length_append] at hmissing
    exact absurd hmissing (Nat.not_lt.mpr (Nat.le_add_left _ _))

/-- **Stability composes.** -/
theorem composes_stable : Composes @Stable where
  pure := stable_pure
  bind := Stable.bind
  line := stable_line
  bytes := stable_bytes
  fail := fun _ => stable_fail _

/-! ## Failures -/

/-- **A scan that fails because of the bytes** and not because of the
transport. -/
def BlamesBytes (scan : Scan α) : Prop :=
  ∀ ⦃buffer : Bytes⦄ ⦃error : ProtocolError⦄,
    scan buffer = .fail error → error.isTransport = false

theorem BlamesBytes.bind {scan : Scan α} {next : α → Scan β} (h : scan.BlamesBytes)
    (hnext : ∀ a, (next a).BlamesBytes) : (scan >>= next).BlamesBytes := by
  intro buffer error e
  rw [bind_eq] at e
  cases hs : scan buffer with
  | more => rw [hs] at e; cases e
  | fail error' =>
    rw [hs] at e
    cases e
    exact h hs
  | done a middle =>
    rw [hs] at e
    exact hnext a e

theorem blamesBytes_line : line.BlamesBytes := by
  intro buffer error e
  unfold line at e
  split at e
  · dsimp only at e
    split at e <;> cases e
    rfl
  · split at e <;> cases e
    rfl

theorem blamesBytes_bytes (n : Nat) : (bytes n).BlamesBytes := by
  intro buffer error e
  unfold bytes at e
  split at e <;> cases e

/-- **So does this.** -/
theorem composes_blamesBytes : Composes @BlamesBytes where
  pure := fun _ _ _ e => by cases e
  bind := BlamesBytes.bind
  line := blamesBytes_line
  bytes := blamesBytes_bytes
  fail := by
    intro α error herror buffer error' e
    cases e
    exact herror

/-! ## Emptying a buffer -/

section Drain

variable {scan : Scan α} {hc : scan.Consumes}

theorem drain_of_more {buffer : Bytes} (h : scan buffer = .more) :
    scan.drain hc buffer = { items := [], error := none, left := buffer } := by
  rw [drain]
  split
  · rfl
  · rename_i error e
    cases h.symm.trans e
  · rename_i a rest e
    cases h.symm.trans e

theorem drain_of_fail {buffer : Bytes} {error : ProtocolError} (h : scan buffer = .fail error) :
    scan.drain hc buffer = { items := [], error := some error, left := buffer } := by
  rw [drain]
  split
  · rename_i e
    cases h.symm.trans e
  · rename_i error e
    cases h.symm.trans e
    rfl
  · rename_i a rest e
    cases h.symm.trans e

theorem drain_of_done {buffer : Bytes} {a : α} {rest : Bytes} (h : scan buffer = .done a rest) :
    scan.drain hc buffer
      = { scan.drain hc rest with items := a :: (scan.drain hc rest).items } := by
  rw [drain]
  split
  · rename_i e
    cases h.symm.trans e
  · rename_i error e
    cases h.symm.trans e
  · rename_i a rest e
    cases h.symm.trans e
    rfl

/-- **Reading on and on comes to an end.** What holds of a buffer from which nothing can
be taken, and of one from which something can if it holds of the rest, holds of all. -/
theorem Consumes.induction {motive : Bytes → Prop} (hc : scan.Consumes)
    (more : ∀ buffer, scan buffer = .more → motive buffer)
    (fail : ∀ buffer error, scan buffer = .fail error → motive buffer)
    (done : ∀ buffer a rest, scan buffer = .done a rest → motive rest → motive buffer)
    (buffer : Bytes) : motive buffer := by
  induction hn : buffer.length using Nat.strongRecOn generalizing buffer with
  | ind n ih =>
    subst hn
    cases hs : scan buffer with
    | more => exact more buffer hs
    | fail error => exact fail buffer error hs
    | done a rest => exact done buffer a rest hs (ih rest.length (hc hs) rest rfl)

end Drain

end Scan

/-- A content that is too long is not the fault of the transport. -/
theorem isTransport_of_checkContent {length : Nat} {error : ProtocolError}
    (h : checkContent length = .error error) : error.isTransport = false := by
  unfold checkContent at h
  split at h <;> cases h
  rfl

namespace Request

/-! ## Requests -/

section Composed

variable {P : ∀ ⦃α : Type⦄, Scan α → Prop} (h : Scan.Composes P)

include h

theorem scanId_of_composes (verb : Verb) (request : UInt64 → Request) :
    P (scanId verb request) := by
  refine h.bind h.line fun line => ?_
  split <;> exact h.pure _

theorem scanGet_of_composes : P scanGet := by
  refine h.bind h.line fun line => ?_
  split <;> exact h.pure _

theorem scanPost_of_composes : P scanPost := by
  refine h.bind h.line fun name => h.bind h.line fun line => ?_
  split
  · exact h.pure _
  · split
    · rename_i error herror
      exact h.fail (isTransport_of_checkContent herror)
    · refine h.bind (h.bytes _) fun content => ?_
      split <;> exact h.pure _

/-- **What composes holds of requests.** -/
theorem scan_of_composes : P scan := by
  refine h.bind h.line fun line => ?_
  split
  · rename_i verb _
    cases verb with
    | openSession => exact h.pure _
    | resume => exact scanId_of_composes h _ _
    | close => exact scanId_of_composes h _ _
    | get => exact scanGet_of_composes h
    | post => exact scanPost_of_composes h
  · exact h.pure _

end Composed

theorem stable_scan : scan.Stable := scan_of_composes Scan.composes_stable

theorem blamesBytes_scan : scan.BlamesBytes := scan_of_composes Scan.composes_blamesBytes

end Request

namespace Response

/-! ## Responses -/

section Composed

variable {P : ∀ ⦃α : Type⦄, Scan α → Prop} (h : Scan.Composes P)

include h

theorem scanId_of_composes (response : UInt64 → Response) : P (scanId response) := by
  refine h.bind h.line fun line => ?_
  split
  · exact h.pure _
  · exact h.fail rfl

theorem scanText_of_composes (response : String → Response) : P (scanText response) :=
  h.bind h.line fun _ => h.pure _

theorem scanDocument_of_composes : P scanDocument := by
  refine h.bind h.line fun name => h.bind h.line fun line => ?_
  split
  · exact h.fail rfl
  · split
    · rename_i error herror
      exact h.fail (isTransport_of_checkContent herror)
    · refine h.bind (h.bytes _) fun content => ?_
      split
      · exact h.pure _
      · exact h.fail rfl

theorem scanAfter_of_composes (expect : Expect) (verdict : Verdict) :
    P (scanAfter expect verdict) := by
  cases verdict with
  | accepted => exact scanId_of_composes h _
  | closed => exact scanId_of_composes h _
  | rejected => exact scanText_of_composes h _
  | error => exact scanText_of_composes h _
  | success =>
    cases expect with
    | document => exact scanDocument_of_composes h
    | plain => exact h.pure _

/-- **What composes holds of responses**, whatever is expected. -/
theorem scan_of_composes (expect : Expect) : P (scan expect) := by
  refine h.bind h.line fun line => ?_
  split
  · exact scanAfter_of_composes h expect _
  · exact h.fail rfl

end Composed

theorem stable_scan (expect : Expect) : (scan expect).Stable :=
  scan_of_composes Scan.composes_stable expect

end Response

end Moorings.Session
