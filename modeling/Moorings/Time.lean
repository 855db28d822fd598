/-!
# Clock readings and spans of time

A clock reading is a number of nanoseconds since some moment that stays fixed.
Nothing here reads a clock: every operation that depends on the time takes the
reading as an argument, and readings may go backwards from one operation to
the next. What has passed `since` an earlier reading is then nothing at all.

A `Span` is a length of time. Messages show one in its largest fitting unit,
with as many decimals as it needs: `5s`, `1.5ms`, `20µs`, `0ns`.
-/

namespace Moorings

/-- A reading of the clock, in nanoseconds. -/
abbrev Instant := Nat

/-- A length of time. -/
structure Span where
  /-- How many nanoseconds it has. -/
  nanos : Nat
  deriving DecidableEq, Repr, Inhabited

namespace Span

/-- A span of whole seconds. -/
def ofSeconds (n : Nat) : Span := ⟨1000000000 * n⟩

/-- A span of whole milliseconds. -/
def ofMillis (n : Nat) : Span := ⟨1000000 * n⟩

/-- A span of whole microseconds. -/
def ofMicros (n : Nat) : Span := ⟨1000 * n⟩

/-- The whole seconds of a span. -/
def seconds (s : Span) : Nat := s.nanos / 1000000000

/-- No time at all. -/
def isZero (s : Span) : Bool := s.nanos == 0

/-- The decimals of `part` out of `10 ^ places`, without the zeros at their
end, and with a point in front if there are any. -/
def decimals (part places : Nat) : String :=
  let digits := Nat.toDigits 10 part
  let padded := List.replicate (places - digits.length) '0' ++ digits
  let shown := (padded.reverse.dropWhile (· == '0')).reverse
  if shown.isEmpty then "" else String.ofList ('.' :: shown)

/-- The span in a unit of `10 ^ places` nanoseconds. -/
def inUnit (s : Span) (places : Nat) (name : String) : String :=
  let unit := Nat.pow 10 places
  toString (s.nanos / unit) ++ decimals (s.nanos % unit) places ++ name

/-- The span as messages show it. -/
def text (s : Span) : String :=
  if 1000000000 ≤ s.nanos then s.inUnit 9 "s"
  else if 1000000 ≤ s.nanos then s.inUnit 6 "ms"
  else if 1000 ≤ s.nanos then s.inUnit 3 "µs"
  else s.inUnit 0 "ns"

/-- **Whether a pause is cut short**: whether the word to stop, if it comes at
all, comes before the pause is over. One that has come already cuts short even
a pause of no time. -/
def isCutShort (pause : Span) (word : Option Span) : Bool :=
  word.any fun w => w.isZero || decide (w.nanos < pause.nanos)

end Span

namespace Instant

/-- What has passed at `now` since the reading `then_`; nothing if the clock
went backwards. -/
def since (now then_ : Instant) : Span := ⟨now - then_⟩

end Instant

end Moorings
