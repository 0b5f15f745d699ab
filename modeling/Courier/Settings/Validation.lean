import Courier.Settings.Basic
import Courier.Text.Piece
import Courier.Text.Blank

/-!
# Validation

What must hold of settings beyond their form. Each rule is a line of `Settings.rules`:
the field it is about, what is wrong, and whether it is wrong here. `Settings.issues`
collects all that are, in the order of the rules, and settings are **valid** if there is
none.
-/

namespace Courier

/-- Something wrong with settings. -/
structure Issue where
  /-- The field, with the section it is in. -/
  field : String
  message : String
deriving DecidableEq

/-- An issue in one line. -/
def Issue.text (i : Issue) : String := i.field ++ ": " ++ i.message

/-- Absent or blank. -/
def isBlankOption (o : Option String) : Bool := (o.map isBlank).getD true

/-- Present and blank. -/
def isGivenBlank (o : Option String) : Bool := (o.map isBlank).getD false

namespace Settings

/-- A number from zero to one. -/
def isShare (x : Binary64) : Bool :=
  Scalar.le (Scalar.ofNat 0 : Binary64) x && Scalar.le x (Scalar.ofNat 1)

/-- The rules: the field, what is wrong, and whether it is. -/
def rules (s : Settings) : List (String × String × Bool) := [
  ("tenant_id", "tenant id is empty", isBlank s.tenantId),
  ("auth.air_auth_token", "token is empty",
    s.auth.useAirAuth && isBlankOption s.auth.airAuthToken),
  ("auth.access_key", "access key or secret key is empty",
    !s.auth.useAirAuth && (isBlankOption s.auth.accessKey || isBlankOption s.auth.secretKey)),
  ("region", "region is empty", isBlank s.region),
  ("hosts", "default hosts are empty and region '" ++ s.region ++ "' has no registered hosts",
    s.resolvedHosts.isEmpty),
  ("hosts", "host entries must not be blank", s.resolvedHosts.any isBlank),
  ("host_header", "host header is blank", isGivenBlank s.hostHeader),
  ("schema", "unsupported schema '" ++ s.schema ++ "'",
    s.schema != "http" && s.schema != "https"),
  ("project_id", "project id is blank", isGivenBlank s.projectId),
  ("availability.window_size", "must be at least 1", s.availability.windowSize == 0),
  ("availability.score_interval_ms", "must be > 0", s.availability.scoreIntervalMs == 0),
  ("availability.fetch_interval_secs", "must be > 0", s.availability.fetchIntervalSecs == 0),
  ("availability.ping_timeout_ms", "must be > 0", s.availability.pingTimeoutMs == 0),
  ("availability.failure_rate_threshold", "must be within [0, 1]",
    !isShare s.availability.failureRateThreshold),
  ("availability.ping_path", "must start with '/'", !startsWith s.availability.pingPath "/"),
  ("caller.ping_interval_secs", "must be > 0", s.keepAlive && s.caller.pingIntervalSecs == 0),
  ("metrics.queue_capacity", "must be at least 1", s.metrics.queueCapacity == 0),
  ("metrics.batch_size", "must be at least 1", s.metrics.batchSize == 0)]

/-- Everything that is wrong, in the order of the rules. -/
def issues (s : Settings) : List Issue :=
  s.rules.filterMap fun r => if r.2.2 then some ⟨r.1, r.2.1⟩ else none

/-- Whether nothing is wrong. -/
def isValid (s : Settings) : Bool := s.issues.isEmpty

end Settings

end Courier
