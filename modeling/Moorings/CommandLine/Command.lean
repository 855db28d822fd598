import Moorings.CommandLine.Switches
import Moorings.Lease.Client
import Moorings.Session.Client

/-!
# The commands

The program has four commands: it runs the lease service, sends one request to
it, runs the session server on a leased port, or makes one visit to the session
server. `Command.ofArguments` reads which one is meant, with the settings that
the switches give and the usual ones for all others.

A visit begins with exactly one of three things: a session is opened, resumed
or closed. After the first two, one document may be read or stored, but not
both.
-/

namespace Moorings.CommandLine

open Net (Ip Endpoint)
open Text.Decimal (readUInt16? readUInt64?)

/-- The port that an argument gives. It is read as a whole number with any
sign, so minus zero is a port as well. -/
def readPort? (text : String) : Option UInt16 :=
  match text.toList with
  | '-' :: digits =>
    if !digits.isEmpty && digits.all (· = '0') then some 0 else none
  | _ => readUInt16? text

/-- What a visit does with a document. -/
inductive Errand where
  /-- The document is read. -/
  | get (name : String)
  /-- What comes on standard input is stored as the document. -/
  | post (name : String)
  deriving DecidableEq, Repr

/-- How a visit begins. -/
inductive Entrance where
  | openSession
  | resume (id : UInt64)
  | close (id : UInt64)
  deriving DecidableEq, Repr

/-- The call with which a visit begins. -/
def Entrance.call : Entrance → Session.Call
  | openSession => .openSession
  | resume id => .resume id
  | close id => .close id

/-- Where to find the lease service, and how long to wait for it. -/
structure Target where
  leases : Endpoint := Settings.defaultLeaseEndpoint
  patience : Span := Settings.defaultPatience
  deriving DecidableEq, Repr

/-- **A command.** -/
inductive Command where
  /-- Run the lease service. -/
  | leaseService (settings : Settings.LeaseService)
  /-- Send one request to the lease service. -/
  | leaseCall (target : Target) (service : String) (call : Lease.Call)
  /-- Run the session server. -/
  | sessionServer (settings : Settings.SessionServer)
  /-- Visit the session server. -/
  | visit (settings : Settings.SessionClient) (entrance : Entrance) (errand : Option Errand)
  deriving DecidableEq, Repr

/-! ## Switches and their values -/

/-- A switch whose value is a port. -/
def portSwitch (name : String) (letter : Char) : Switch where
  name
  letter := some letter
  accepts := some fun text => (readPort? text).isSome

/-- A switch whose value is a number of seconds, or an id. -/
def numberSwitch (name : String) (letter : Option Char) : Switch where
  name
  letter
  accepts := some fun text => (readUInt64? text).isSome

/-- A switch whose value is any text. -/
def textSwitch (name : String) : Switch where
  name
  accepts := some fun _ => true

/-- A switch whose value is an address. -/
def ipSwitch (name : String) : Switch where
  name
  accepts := some fun text => (Ip.ofText? text).isSome

/-- The switches for the lease service that a command talks to. -/
def targetSwitches : List Switch :=
  [{ name := "prs", accepts := some fun text => (Endpoint.ofText? text).isSome },
   numberSwitch "timeout" none]

namespace Given

/-- The port that a switch gives. -/
def port? (g : Given) (name : String) : Option UInt16 := (g.value? name).bind readPort?

/-- The number that a switch gives. -/
def number? (g : Given) (name : String) : Option UInt64 := (g.value? name).bind readUInt64?

/-- The span that a switch gives in seconds. -/
def seconds? (g : Given) (name : String) : Option Span :=
  (g.number? name).map fun n => Span.ofSeconds n.toNat

/-- The address that a switch gives. -/
def ip? (g : Given) (name : String) : Option Ip := (g.value? name).bind Ip.ofText?

/-- The lease service that the switches give. -/
def target (g : Given) : Target where
  leases := ((g.value? "prs").bind Endpoint.ofText?).getD Settings.defaultLeaseEndpoint
  patience := (g.seconds? "timeout").getD Settings.defaultPatience

end Given

namespace Command

/-! ## The four commands -/

/-- What may be given to the lease service. -/
def leaseServiceForm : Form where
  switches :=
    [portSwitch "port" 'p', portSwitch "start" 's', portSwitch "end" 'e',
     numberSwitch "timeout" (some 't')]

/-- The lease service that is meant. -/
def leaseServiceOf (g : Given) : Command :=
  let usual : Settings.LeaseService := {}
  .leaseService
    { servicePort := (g.port? "port").getD usual.servicePort
      first := (g.port? "start").getD usual.first
      last := (g.port? "end").getD usual.last
      timeout := (g.seconds? "timeout").getD usual.timeout }

/-- What may be given to a request to the lease service. -/
def leaseCallForm : Form where
  switches := targetSwitches ++ [textSwitch "service"]
  commands := ["request", "keep-alive", "close", "lookup", "stop"]

/-- What may be given to a request about a port. -/
def portForm : Form where
  switches := []
  word := some fun text => (readPort? text).isSome

/-- What may be given to a request about nothing in particular. -/
def emptyForm : Form where
  switches := []

/-- The call that a request to the lease service makes. -/
def callOf (name : String) (arguments : List String) : Except Stop Lease.Call :=
  let plain (call : Lease.Call) : Except Stop Lease.Call := do
    let _ ← emptyForm.read arguments
    pure call
  let withPort (call : UInt16 → Lease.Call) : Except Stop Lease.Call := do
    let g ← portForm.read arguments
    match g.word.bind readPort? with
    | some port => pure (call port)
    | none => throw .usage
  match name with
  | "request" => plain .requestPort
  | "keep-alive" => withPort .keepAlive
  | "close" => withPort .closePort
  | "lookup" => plain .lookupPort
  | "stop" => plain .stop
  | _ => .error .usage

/-- The request to the lease service that is meant. -/
def leaseCallOf (g : Given) : Except Stop Command :=
  match g.command with
  | none => .error .usage
  | some (name, arguments) => do
    let call ← callOf name arguments
    pure (.leaseCall g.target ((g.value? "service").getD Settings.defaultServiceName) call)

/-- What may be given to the session server. -/
def sessionServerForm : Form where
  switches := targetSwitches ++
    [textSwitch "service-name", numberSwitch "keep-alive-secs" none, ipSwitch "bind"]

/-- The session server that is meant. -/
def sessionServerOf (g : Given) : Command :=
  let usual : Settings.SessionServer := {}
  .sessionServer
    { leases := g.target.leases
      serviceName := (g.value? "service-name").getD usual.serviceName
      interval := (g.seconds? "keep-alive-secs").getD usual.interval
      interface := (g.ip? "bind").getD usual.interface
      patience := g.target.patience }

/-- What may be given to a visit. -/
def visitForm : Form where
  switches := targetSwitches ++
    [ipSwitch "server", textSwitch "service-name", { name := "open", letter := some 'o' },
     numberSwitch "resume" (some 'r'), numberSwitch "close" (some 'c'),
     textSwitch "get", textSwitch "post"]

/-- How the visit begins that is meant: there must be one beginning. -/
def entranceOf (g : Given) : Except Stop Entrance :=
  match g.hasFlag "open", g.number? "resume", g.number? "close" with
  | true, none, none => .ok .openSession
  | false, some id, none => .ok (.resume id)
  | false, none, some id => .ok (.close id)
  | _, _, _ => .error .usage

/-- What the visit does that is meant: one thing at most. -/
def errandOf (g : Given) : Except Stop (Option Errand) :=
  match g.value? "get", g.value? "post" with
  | none, none => .ok none
  | some name, none => .ok (some (.get name))
  | none, some name => .ok (some (.post name))
  | some _, some _ => .error .usage

/-- The visit that is meant. One that closes a session does nothing else. -/
def visitOf (g : Given) : Except Stop Command := do
  let entrance ← entranceOf g
  let errand ← errandOf g
  let usual : Settings.SessionClient := {}
  let settings : Settings.SessionClient :=
    { leases := g.target.leases
      host := (g.ip? "server").getD usual.host
      serviceName := (g.value? "service-name").getD usual.serviceName
      patience := g.target.patience }
  match entrance, errand with
  | .close _, some _ => throw .usage
  | _, _ => pure (.visit settings entrance errand)

/-- What may be given to the program. -/
def programForm : Form where
  switches := []
  commands := ["prs-server", "prs-client", "sd-server", "sd-client"]
  hasVersion := true

/-- **The command that the arguments mean.** -/
def ofArguments (arguments : List String) : Except Stop Command := do
  match (← programForm.read arguments).command with
  | some ("prs-server", rest) => leaseServiceOf <$> leaseServiceForm.read rest
  | some ("prs-client", rest) => leaseCallOf (← leaseCallForm.read rest)
  | some ("sd-server", rest) => sessionServerOf <$> sessionServerForm.read rest
  | some ("sd-client", rest) => visitOf (← visitForm.read rest)
  | _ => throw .usage

end Command

end Moorings.CommandLine
