import Moorings.ProtocolError
import Moorings.Text.Decimal

/-!
# Reading from a stream

The session protocol is a stream of bytes in each direction. Every field is a
line of its own, ended by a line feed, before which a carriage return may
stand; only the content of a document is not a line but as many bytes as the
line before it says.

A stream arrives in pieces, so whoever reads from it has a buffer that may end
anywhere. A `Scan` reads something from the front of a buffer and comes to one
of three things: it is `done` and leaves the rest, it needs `more` bytes, or
it must `fail`. Scans are put together with `do`; each goes on where the one
before it stopped, and the whole is done only when every part is.

`Scan.drain` takes one thing after another from a buffer, until it needs more
or fails. That it comes to an end is what `Scan.Consumes` is for: a scan that
takes at least one byte whenever it is done.

## Limits

A line of more than `maxLine` bytes fails, and so does an unfinished one as
soon as it cannot come to less. A reader therefore never has to keep much more
than the longest thing that may arrive.
-/

namespace Moorings.Session

/-- The line feed, which ends a line. -/
def lineFeed : UInt8 := 10

/-- The carriage return, which may stand before it. -/
def carriageReturn : UInt8 := 13

/-- The most bytes a line has, its end not counted. -/
def maxLine : Nat := 8192

/-- The most bytes a document has. -/
def maxContent : Nat := 16777216

/-- What reading from the front of a buffer comes to. -/
inductive Reading (α : Type) where
  /-- There is not enough in the buffer. -/
  | more
  /-- Whatever may still come, it is not legible. -/
  | fail (error : ProtocolError)
  /-- This has been read, and this is left. -/
  | done (value : α) (rest : Bytes)
  deriving Repr

/-- **A reader of the front of a buffer.** -/
def Scan (α : Type) : Type := Bytes → Reading α

namespace Scan

variable {α β : Type}

/-- What has been read without reading. -/
protected def pure (a : α) : Scan α := fun buffer => .done a buffer

/-- One scan, and after it the one that depends on what was read. -/
protected def bind (scan : Scan α) (next : α → Scan β) : Scan β := fun buffer =>
  match scan buffer with
  | .more => .more
  | .fail error => .fail error
  | .done a rest => next a rest

instance : Monad Scan where
  pure := Scan.pure
  bind := Scan.bind

/-- Nothing can be read. -/
def fail (error : ProtocolError) : Scan α := fun _ => .fail error

/-- A line without the carriage return it may end in. -/
def withoutReturn (line : Bytes) : Bytes :=
  if line.getLast? = some carriageReturn then line.dropLast else line

/-- **The next line**, without its end. An unfinished line is too long once it
has a byte more than a line with its carriage return. -/
def line : Scan Bytes := fun buffer =>
  match buffer.dropWhile (· != lineFeed) with
  | _ :: rest =>
    let text := withoutReturn (buffer.takeWhile (· != lineFeed))
    if maxLine < text.length then .fail (.lineTooLong maxLine) else .done text rest
  | [] => if maxLine + 1 < buffer.length then .fail (.lineTooLong maxLine) else .more

/-- **The next `n` bytes.** -/
def bytes (n : Nat) : Scan Bytes := fun buffer =>
  if buffer.length < n then .more else .done (buffer.take n) (buffer.drop n)

/-- The scan at the end of the stream, where nothing more will come: what is
left of an unfinished thing makes it fail. -/
def atEnd (scan : Scan α) : Scan α := fun buffer =>
  match scan buffer with
  | .more => if buffer.isEmpty then .more else .fail (.trailingBytes buffer.length)
  | reading => reading

/-! ## Scans that take something -/

/-- **A scan that takes at least one byte** whenever it is done. -/
def Consumes (scan : Scan α) : Prop :=
  ∀ ⦃buffer : Bytes⦄ ⦃a : α⦄ ⦃rest : Bytes⦄,
    scan buffer = .done a rest → rest.length < buffer.length

/-- A scan that gives nothing back. -/
def Keeps (scan : Scan α) : Prop :=
  ∀ ⦃buffer : Bytes⦄ ⦃a : α⦄ ⦃rest : Bytes⦄,
    scan buffer = .done a rest → rest.length ≤ buffer.length

theorem bind_eq (scan : Scan α) (next : α → Scan β) (buffer : Bytes) :
    (scan >>= next) buffer = match scan buffer with
      | .more => .more
      | .fail error => .fail error
      | .done a rest => next a rest := rfl

theorem bind_of_done {scan : Scan α} {next : α → Scan β} {buffer rest : Bytes} {a : α}
    (h : scan buffer = .done a rest) : (scan >>= next) buffer = next a rest := by
  rw [bind_eq, h]

theorem bind_of_fail {scan : Scan α} {next : α → Scan β} {buffer : Bytes}
    {error : ProtocolError} (h : scan buffer = .fail error) :
    (scan >>= next) buffer = .fail error := by
  rw [bind_eq, h]

@[simp] theorem pure_eq (a : α) (buffer : Bytes) :
    (pure a : Scan α) buffer = .done a buffer := rfl

@[simp] theorem fail_eq (error : ProtocolError) (buffer : Bytes) :
    (fail error : Scan α) buffer = .fail error := rfl

theorem Consumes.keeps {scan : Scan α} (h : scan.Consumes) : scan.Keeps :=
  fun _ _ _ e => Nat.le_of_lt (h e)

theorem keeps_pure (a : α) : (pure a : Scan α).Keeps := by
  intro buffer b rest e
  rw [pure_eq] at e
  cases e
  exact Nat.le_refl _

theorem keeps_fail (error : ProtocolError) : (fail error : Scan α).Keeps := by
  intro buffer b rest e
  cases e

theorem Keeps.bind {scan : Scan α} {next : α → Scan β} (h : scan.Keeps)
    (hnext : ∀ a, (next a).Keeps) : (scan >>= next).Keeps := by
  intro buffer b rest e
  rw [bind_eq] at e
  split at e
  · cases e
  · cases e
  · rename_i a middle hm
    exact Nat.le_trans (hnext a e) (h hm)

theorem Consumes.bind {scan : Scan α} {next : α → Scan β} (h : scan.Consumes)
    (hnext : ∀ a, (next a).Keeps) : (scan >>= next).Consumes := by
  intro buffer b rest e
  rw [bind_eq] at e
  split at e
  · cases e
  · cases e
  · rename_i a middle hm
    exact Nat.lt_of_le_of_lt (hnext a e) (h hm)

/-- A line takes its line feed at least. -/
theorem consumes_line : line.Consumes := by
  intro buffer a rest e
  unfold line at e
  split at e
  · rename_i c rest' hd
    dsimp only at e
    split at e
    · cases e
    · cases e
      have := (List.dropWhile_sublist (· != lineFeed) (l := buffer)).length_le
      rw [hd, List.length_cons] at this
      exact this
  · split at e <;> cases e

theorem keeps_bytes (n : Nat) : (bytes n).Keeps := by
  intro buffer a rest e
  unfold bytes at e
  split at e
  · cases e
  · cases e
    simp

theorem Consumes.atEnd {scan : Scan α} (h : scan.Consumes) : scan.atEnd.Consumes := by
  intro buffer a rest e
  unfold Scan.atEnd at e
  split at e
  · split at e <;> cases e
  · exact h e

/-! ## One thing after another -/

end Scan

/-- What has been taken from a buffer: some things in a row, the failure that
ended them, if one did, and what is left. -/
structure Batch (α : Type) where
  items : List α
  error : Option ProtocolError
  left : Bytes
  deriving Repr

/-- **Everything that can be taken from a buffer**, until there is not enough
left for another thing or it is not legible. What failed stays in the
buffer. -/
def Scan.drain {α : Type} (scan : Scan α) (h : scan.Consumes) (buffer : Bytes) : Batch α :=
  match _e : scan buffer with
  | .more => { items := [], error := none, left := buffer }
  | .fail error => { items := [], error := some error, left := buffer }
  | .done a rest =>
    let batch := drain scan h rest
    { batch with items := a :: batch.items }
termination_by buffer.length
decreasing_by exact h _e

end Moorings.Session
