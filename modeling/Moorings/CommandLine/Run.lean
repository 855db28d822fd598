import Moorings.CommandLine.Command
import Moorings.CommandLine.Network
import Moorings.CommandLine.Outcome

/-!
# Running a command

`run` performs a command in a network and gives how it ends together with the
network afterwards. A command that talks to a service tells the outcome, or
fails with what went wrong first; what it had done until then stays done.

A server runs until it is told to stop, so what it does depends on what it is
sent in the meantime. `serveLeases` is the lease service on a sequence of
datagrams. Within `run`, a server is told to stop as soon as it runs.
-/

namespace Moorings.CommandLine

open Net (Endpoint SystemError)

/-- The version of the program, as it prints it. -/
def versionText : String := "leasehold 0.1.0\n"

/-! ## The lease service -/

/-- **The lease service run on a sequence of datagrams**: its replies, and how
it ends. -/
def serveLeases (settings : Settings.LeaseService) (datagrams : List Bytes) :
    List (Option Bytes) × Exit :=
  match settings.validate with
  | .error error => ([], .failed ["Invalid PRS configuration", error.message])
  | .ok () =>
    match Lease.Pool.new settings.first settings.last settings.timeout with
    | .error error => ([], .failed [error.message])
    | .ok pool =>
      let (replies, _) := Lease.Service.serve pool (datagrams.map fun d => (0, d))
      (replies, .silent)

/-! ## One request to the lease service -/

/-- What there is to tell of a call that went well. -/
def leaseOutcome (service : String) (call : Lease.Call) (reply : Lease.Message) : Outcome :=
  let word := (call.request service).kind.word
  let about (port : UInt16) : Outcome :=
    [("request", .scalar (.text word)), ("service", .scalar (.text service)),
     ("port", .scalar (.number port.toNat))]
  match call with
  | .requestPort | .lookupPort => about reply.port
  | .keepAlive port | .closePort port => about port
  | .stop => [("request", .scalar (.text word))]

/-- One request to the lease service. -/
def runLeaseCall (n : Network) (target : Target) (service : String) (call : Lease.Call) :
    Exit × Network :=
  match Lease.Client.connect n.route service target.patience with
  | .error error => (.failed ("Failed to open PRS socket" :: error.chain), n)
  | .ok client =>
    match n.ask target.leases client call with
    | (.error error, n) => (.failed error.chain, n)
    | (.ok reply, n) => (.told (leaseOutcome service call reply), n)

/-! ## The session server -/

/-- A session server started in the network: what became of it, and the
network afterwards. Every port of the host that nobody listens on can be
listened on. -/
def startServer (n : Network) (settings : Settings.SessionServer) :
    Except Session.ServerError Session.Leased × Network :=
  match n.leases.lookup settings.leases with
  | some (.service pool) =>
    if pool.stopped then (.error (.lease (.system .connectionRefused)), n)
    else
      let bound (port : UInt16) : Except SystemError Unit :=
        if n.servers.any (·.1.port = port) then .error .addressInUse else .ok ()
      let (started, pool) := Session.Leased.start settings n.route bound pool 0
      (started, { n with leases := Network.replace settings.leases (.service pool) n.leases })
  | peer =>
    match Lease.Client.connect n.route settings.serviceName settings.patience with
    | .error error => (.error (.lease error), n)
    | .ok client =>
      let error : Lease.ClientError :=
        if peer.isSome then .timeout client.patience else .system .connectionRefused
      (.error (.lease error), n)

/-- A session server that is told to stop as soon as it runs. -/
def runServer (n : Network) (settings : Settings.SessionServer) : Exit × Network :=
  match settings.validate with
  | .error error =>
    (.failed ["Invalid session server configuration", error.message], n)
  | .ok () =>
    match startServer n settings with
    | (.error error, n) => (.failed error.chain, n)
    | (.ok leased, n) =>
      let (_, n) := n.ask settings.leases leased.tenant (.closePort leased.port)
      (.silent, n)

/-! ## A visit to the session server -/

/-- What goes wrong in a visit: the texts of the failure, outermost first. -/
abbrev Failure := List String

/-- What there is to tell of the beginning of a visit. -/
def entranceOutcome : Entrance → Session.Result → Outcome
  | .openSession, .session id => [("opened", .scalar (.number id.toNat))]
  | .resume id, _ => [("resumed", .scalar (.number id.toNat))]
  | .close id, _ => [("closed", .scalar (.number id.toNat))]
  | .openSession, _ => []

/-- The call that an errand makes, and what there is to tell of it. Only to
store a document is standard input read. -/
def errandCall (stdin : Bytes) : Errand → Except Failure (Session.Call × (Session.Result → Outcome))
  | .get name =>
    let outcome : Session.Result → Outcome
      | .content text =>
        [("document", .record [("name", .text name), ("content", .text text)])]
      | _ => []
    .ok (.get name, outcome)
  | .post name =>
    match Text.ofUtf8? stdin with
    | none =>
      .error ["Failed to read document from stdin", "stream did not contain valid UTF-8"]
    | some content =>
      let stored : Outcome :=
        [("stored", .record
          [("name", .text name), ("bytes", .number content.utf8ByteSize)])]
      .ok (.post name content, fun _ => stored)

/-- The calls of a visit at the session server, with what they tell. -/
def visitCalls (link : Session.Link) (d : Session.Directory) (entrance : Entrance)
    (errand : Option Errand) (stdin : Bytes) : Except Failure Outcome × Session.Directory :=
  match link.call d entrance.call with
  | (.error error, _, d) => (.error error.chain, d)
  | (.ok result, link, d) =>
    let begun := entranceOutcome entrance result
    match errand with
    | none => (.ok begun, d)
    | some errand =>
      match errandCall stdin errand with
      | .error failure => (.error failure, d)
      | .ok (call, outcome) =>
        match link.call d call with
        | (.error error, _, d) => (.error error.chain, d)
        | (.ok result, _, d) => (.ok (begun ++ outcome result), d)

/-- The endpoint of the session server, as the lease service knows it. -/
def findServer (n : Network) (settings : Settings.SessionClient) :
    Except Session.ClientError Endpoint × Network :=
  match Lease.Client.connect n.route settings.serviceName settings.patience with
  | .error error => (.error (.lookup error), n)
  | .ok client =>
    match n.ask settings.leases client .lookupPort with
    | (.error error, n) => (.error (.lookup error), n)
    | (.ok reply, n) => (.ok (.of settings.host reply.port), n)

/-- A visit to the session server. -/
def runVisit (n : Network) (settings : Settings.SessionClient) (entrance : Entrance)
    (errand : Option Errand) (stdin : Bytes) : Exit × Network :=
  match findServer n settings with
  | (.error error, n) => (.failed error.chain, n)
  | (.ok endpoint, n) =>
    match n.visit endpoint settings.patience with
    | .error error => (.failed error.chain, n)
    | .ok (link, d) =>
      let (outcome, d) := visitCalls link d entrance errand stdin
      let n := n.setDirectory endpoint d
      match outcome with
      | .ok outcome => (.told outcome, n)
      | .error failure => (.failed failure, n)

/-! ## Any command -/

/-- How the program ends if its arguments are no command. -/
def Stop.exit : Stop → Exit
  | usage => { code := 2 }
  | help => .silent
  | version => { code := 0, output := versionText }

/-- A command performed. -/
def Command.run (n : Network) (stdin : Bytes) : Command → Exit × Network
  | leaseService settings => ((serveLeases settings []).2, n)
  | leaseCall target service call => runLeaseCall n target service call
  | sessionServer settings => runServer n settings
  | visit settings entrance errand => runVisit n settings entrance errand stdin

/-- **The program run with these arguments.** -/
def run (n : Network) (arguments : List String) (stdin : Bytes) : Exit × Network :=
  match Command.ofArguments arguments with
  | .error stop => (stop.exit, n)
  | .ok command => command.run n stdin

end Moorings.CommandLine
