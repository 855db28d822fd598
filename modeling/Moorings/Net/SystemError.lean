/-!
# What a host reports of its network

The failures of the transport below the two protocols that reach a caller,
with the number and the words under which a host reports each.
-/

namespace Moorings.Net

/-- A failure of the transport. -/
inductive SystemError where
  /-- Somebody else listens at the address. -/
  | addressInUse
  /-- There is no way to the address. -/
  | networkUnreachable
  /-- Nobody listens at the address. -/
  | connectionRefused
  /-- The peer has left the connection that is written to. -/
  | brokenPipe
  deriving DecidableEq, Repr

namespace SystemError

/-- The number of a failure. -/
def number : SystemError → Nat
  | addressInUse => 98
  | networkUnreachable => 101
  | connectionRefused => 111
  | brokenPipe => 32

/-- The words for a failure. -/
def words : SystemError → String
  | addressInUse => "Address already in use"
  | networkUnreachable => "Network is unreachable"
  | connectionRefused => "Connection refused"
  | brokenPipe => "Broken pipe"

/-- The text in which a failure is reported. -/
def message (e : SystemError) : String :=
  s!"{e.words} (os error {e.number})"

end SystemError

end Moorings.Net
