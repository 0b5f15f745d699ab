import Courier.Number.Binary64
import Courier.Settings.Region

/-!
# Settings

Everything a client is told (`Courier.Settings`), in sections, each field with the value
it has when nothing is said. Times are kept in the unit in which they are given; the
functions at the end of a section give them in milliseconds.
-/

namespace Courier

/-- How requests are signed. -/
structure AuthSettings where
  /-- Sign with the tenant's token and not with an access key. -/
  useAirAuth : Bool := false
  airAuthToken : Option String := none
  accessKey : Option String := none
  secretKey : Option String := none
  sessionToken : Option String := none
  service : String := "air"
deriving DecidableEq, Inhabited

/-- How calls are made. -/
structure CallerSettings where
  /-- How long an unused connection is kept. -/
  keepAliveSecs : Nat := 60
  pingIntervalSecs : Nat := 45
  maxConnections : Nat := 64
  connectTimeoutMs : Nat := 1000
  defaultTimeoutMs : Nat := 5000
  pingTimeoutMs : Nat := 500
deriving DecidableEq, Inhabited

namespace CallerSettings

def keepAlive (s : CallerSettings) : Nat := 1000 * s.keepAliveSecs
def pingInterval (s : CallerSettings) : Nat := 1000 * s.pingIntervalSecs
def connectTimeout (s : CallerSettings) : Nat := s.connectTimeoutMs
def defaultTimeout (s : CallerSettings) : Nat := s.defaultTimeoutMs
def pingTimeout (s : CallerSettings) : Nat := s.pingTimeoutMs

end CallerSettings

/-- How hosts are ranked. -/
structure AvailabilitySettings where
  scoreIntervalMs : Nat := 1000
  fetchIntervalSecs : Nat := 10
  pingPath : String := "/predict/api/ping"
  pingTimeoutMs : Nat := 300
  windowSize : Nat := 60
  /-- The share of failures from which on a host counts as degraded: one tenth. -/
  failureRateThreshold : Binary64 := ⟨0x3fb999999999999a⟩
  fetchTimeoutMs : Nat := 5000
  fetchMaxAttempts : Nat := 3
  fetchHostsFromServer : Bool := true
deriving DecidableEq, Inhabited

namespace AvailabilitySettings

def scoreInterval (s : AvailabilitySettings) : Nat := s.scoreIntervalMs
def fetchInterval (s : AvailabilitySettings) : Nat := 1000 * s.fetchIntervalSecs
def pingTimeout (s : AvailabilitySettings) : Nat := s.pingTimeoutMs
def fetchTimeout (s : AvailabilitySettings) : Nat := s.fetchTimeoutMs

end AvailabilitySettings

/-- How telemetry is reported. -/
structure MetricsSettings where
  enabled : Bool := false
  reportLogs : Bool := false
  /-- What stands in front of the name of every series. -/
  namePrefix : String := "rec.sdk"
  flushIntervalSecs : Nat := 10
  queueCapacity : Nat := 10000
  batchSize : Nat := 1000
  httpTimeoutMs : Nat := 800
  maxTryTimes : Nat := 2
  counterPath : String := "/api/counter"
  generalPath : String := "/api/put"
  logPath : String := "/api/log"
deriving DecidableEq, Inhabited

namespace MetricsSettings

/-- At least a second. -/
def flushInterval (s : MetricsSettings) : Nat := 1000 * max s.flushIntervalSecs 1
def httpTimeout (s : MetricsSettings) : Nat := s.httpTimeoutMs

end MetricsSettings

/-- What a program that uses the library writes about itself. -/
structure DiagnosticsSettings where
  logLevel : String := "info"
  jsonLogs : Bool := false
deriving DecidableEq, Inhabited

/-- **Everything a client is told.** -/
structure Settings where
  tenantId : String := ""
  projectId : Option String := none
  region : String := ""
  hosts : List String := []
  regions : Regions := Table.empty
  /-- The name that requests give for their host in place of its address. -/
  hostHeader : Option String := none
  schema : String := "https"
  /-- Ping all hosts now and then so that connections stay open. -/
  keepAlive : Bool := false
  headers : Table String := Table.empty
  auth : AuthSettings := {}
  caller : CallerSettings := {}
  availability : AvailabilitySettings := {}
  metrics : MetricsSettings := {}
  diagnostics : DiagnosticsSettings := {}
deriving DecidableEq, Inhabited

namespace Settings

/-- The hosts to use: those given, or else those of the region. -/
def resolvedHosts (s : Settings) : List String :=
  if s.hosts.isEmpty then s.regions.hosts s.region else s.hosts

/-- The region to sign with. -/
def credentialRegion (s : Settings) : String := s.regions.credentialRegion s.region

end Settings

end Courier
