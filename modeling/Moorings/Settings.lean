import Moorings.Net.Endpoint
import Moorings.Text.Quoted
import Moorings.Time

/-!
# Settings

What the programs are started with, what each setting is when nothing is said
about it, and which settings are refused before anything is started.
-/

namespace Moorings

/-- Why settings are refused. -/
inductive SettingsError where
  /-- The last port lies before the first. -/
  | invalidPortRange (first last : UInt16)
  /-- A span that has to take some time takes none. -/
  | zeroSpan (what : String)
  /-- A text writes no endpoint. -/
  | invalidEndpoint (text : String)
  deriving DecidableEq, Repr

/-- The refusal in words. -/
def SettingsError.message : SettingsError → String
  | invalidPortRange first last =>
    s!"Ending client port {last.toNat} is lower than starting client port {first.toNat}"
  | zeroSpan what => s!"{what} must be greater than zero"
  | invalidEndpoint text => s!"Invalid address {Text.quoted text}: expected <host>:<port>"

namespace Settings

open Net (Ip Endpoint)

/-- The port on which the lease service is found. -/
def defaultLeasePort : UInt16 := 30000

/-- Where the lease service is looked for. -/
def defaultLeaseEndpoint : Endpoint := .of .loopback defaultLeasePort

/-- The name under which the session server has its port. -/
def defaultServiceName : String := "SD Server"

/-- How long a client waits for a reply. -/
def defaultPatience : Span := .ofSeconds 5

/-- The endpoint that a text writes, or the refusal of the text. -/
def readEndpoint (text : String) : Except SettingsError Endpoint :=
  match Endpoint.ofText? text with
  | some endpoint => .ok endpoint
  | none => .error (.invalidEndpoint text)

/-- **What a lease service is started with.** -/
structure LeaseService where
  /-- The port it listens on. -/
  servicePort : UInt16 := defaultLeasePort
  /-- The first port that can be leased. -/
  first : UInt16 := 40000
  /-- The last port that can be leased. -/
  last : UInt16 := 40099
  /-- How long a lease lasts without a word from its holder. -/
  timeout : Span := .ofSeconds 300
  deriving DecidableEq, Repr

namespace LeaseService

/-- Whether a lease service can be started so. -/
def validate (s : LeaseService) : Except SettingsError Unit :=
  if s.last < s.first then .error (.invalidPortRange s.first s.last)
  else if s.timeout.isZero then .error (.zeroSpan "keep-alive timeout")
  else .ok ()

/-- Where the service listens: on every interface. -/
def endpoint (s : LeaseService) : Endpoint := .of .any s.servicePort

end LeaseService

/-- **What a session server is started with.** -/
structure SessionServer where
  /-- Where to find the lease service. -/
  leases : Endpoint := defaultLeaseEndpoint
  /-- The name to lease the port under. -/
  serviceName : String := defaultServiceName
  /-- How long to wait between two renewals of the lease. -/
  interval : Span := .ofSeconds 60
  /-- The interface to listen on. -/
  interface : Ip := .any
  /-- How long to wait for a reply of the lease service. -/
  patience : Span := defaultPatience
  deriving DecidableEq, Repr

/-- Whether a session server can be started so. -/
def SessionServer.validate (s : SessionServer) : Except SettingsError Unit :=
  if s.interval.isZero then .error (.zeroSpan "keep-alive interval")
  else if s.patience.isZero then .error (.zeroSpan "response timeout")
  else .ok ()

/-- **What a session client is started with.** -/
structure SessionClient where
  /-- Where to find the lease service. -/
  leases : Endpoint := defaultLeaseEndpoint
  /-- The host of the session server; its port is looked up. -/
  host : Ip := .loopback
  /-- The name the session server has its port under. -/
  serviceName : String := defaultServiceName
  /-- How long to wait for each reply. -/
  patience : Span := defaultPatience
  deriving DecidableEq, Repr

end Settings

end Moorings
