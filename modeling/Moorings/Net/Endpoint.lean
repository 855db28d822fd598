import Moorings.Net.Ip
import Moorings.Text.Blank

/-!
# Endpoints

An endpoint is an address with a port. With an address of version 4 it is
written `127.0.0.1:30000`; one of version 6 stands in brackets, as in
`[::1]:30000`, where a scope may follow the address after a percent sign. A
scope of zero is no scope and is not shown.

`Endpoint.ofText?` reads this form, after white space at both ends is taken
away. Neither the port nor the scope has a sign, and both may have any number
of zeros in front.
-/

namespace Moorings.Net

/-- An address with a port and, in version 6, the scope it is meant in. -/
inductive Endpoint where
  | v4 (ip : Ipv4) (port : UInt16)
  | v6 (ip : Ipv6) (port : UInt16) (scope : UInt32)
  deriving DecidableEq, Repr

namespace Endpoint

/-- The port `port` of an address. -/
def of (ip : Ip) (port : UInt16) : Endpoint :=
  match ip with
  | .v4 ip => .v4 ip port
  | .v6 ip => .v6 ip port 0

/-- The address of an endpoint. -/
def ip : Endpoint → Ip
  | .v4 ip _ => .v4 ip
  | .v6 ip _ _ => .v6 ip

/-- The port of an endpoint. -/
def port : Endpoint → UInt16
  | .v4 _ port => port
  | .v6 _ port _ => port

/-- Whether the address is of version 4. -/
def isV4 : Endpoint → Bool
  | .v4 .. => true
  | .v6 .. => false

/-- The form in which an endpoint is shown. -/
def text : Endpoint → String
  | .v4 ip port => s!"{ip.text}:{port.toNat}"
  | .v6 ip port scope =>
    if scope = 0 then s!"[{ip.text}]:{port.toNat}"
    else s!"[{ip.text}%{scope.toNat}]:{port.toNat}"

/-- A colon and a port number. -/
def readPort : Read UInt16 := do
  Read.char ':'
  Nat.toUInt16 <$> Read.decimal (UInt16.size - 1)

/-- A percent sign and a scope number. -/
def readScope : Read UInt32 := do
  Read.char '%'
  Nat.toUInt32 <$> Read.decimal (UInt32.size - 1)

/-- An endpoint of version 4. -/
def readV4 : Read Endpoint := do
  let ip ← Read.ipv4
  let port ← readPort
  pure (.v4 ip port)

/-- An endpoint of version 6. -/
def readV6 : Read Endpoint := do
  Read.char '['
  let ip ← Read.ipv6
  let scope ← Read.attempt readScope
  Read.char ']'
  let port ← readPort
  pure (.v6 ip port (scope.getD 0))

/-- The endpoint that a text writes, white space around it apart. -/
def ofText? (text : String) : Option Endpoint :=
  let read : Read Endpoint := do
    match ← Read.attempt readV4 with
    | some endpoint => pure endpoint
    | none => readV6
  read.whole? (Text.trim text)

end Endpoint

end Moorings.Net
