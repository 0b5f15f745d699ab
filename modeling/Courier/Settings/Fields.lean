import Courier.Settings.Basic
import Courier.Settings.Field

/-!
# The written form of settings

The names of all fields, section by section. `Settings.ofJson?` reads settings from a
value, over the defaults, and `Settings.toJson` writes them.
-/

namespace Courier

namespace Region

/-- The fields of a region. -/
def fields : Section Region := [
  .texts "hosts" (·.hosts) fun s v => { s with hosts := v },
  .text "credential_region" (·.credentialRegion) fun s v => { s with credentialRegion := v }]

end Region

namespace Regions

/-- Regions read from a table. -/
def ofJson? (strict : Bool) (j : Json) : Option Regions :=
  j.table? fun v => Region.fields.read? strict v ⟨[], ""⟩

/-- Regions as a table. -/
def toJson (t : Regions) : Json := Json.ofTable Region.fields.write t

end Regions

namespace AuthSettings

/-- The fields of the section. -/
def fields : Section AuthSettings := [
  .flag "use_air_auth" (·.useAirAuth) fun s v => { s with useAirAuth := v },
  .optionalText "air_auth_token" (·.airAuthToken) fun s v => { s with airAuthToken := v },
  .optionalText "access_key" (·.accessKey) fun s v => { s with accessKey := v },
  .optionalText "secret_key" (·.secretKey) fun s v => { s with secretKey := v },
  .optionalText "session_token" (·.sessionToken) fun s v => { s with sessionToken := v },
  .text "service" (·.service) fun s v => { s with service := v }]

end AuthSettings

namespace CallerSettings

/-- The fields of the section. -/
def fields : Section CallerSettings := [
  .nat64 "keep_alive_secs" (·.keepAliveSecs) fun s v => { s with keepAliveSecs := v },
  .nat64 "ping_interval_secs" (·.pingIntervalSecs) fun s v => { s with pingIntervalSecs := v },
  .nat64 "max_connections" (·.maxConnections) fun s v => { s with maxConnections := v },
  .nat64 "connect_timeout_ms" (·.connectTimeoutMs) fun s v => { s with connectTimeoutMs := v },
  .nat64 "default_timeout_ms" (·.defaultTimeoutMs) fun s v => { s with defaultTimeoutMs := v },
  .nat64 "ping_timeout_ms" (·.pingTimeoutMs) fun s v => { s with pingTimeoutMs := v }]

end CallerSettings

namespace AvailabilitySettings

/-- The fields of the section. -/
def fields : Section AvailabilitySettings := [
  .nat64 "score_interval_ms" (·.scoreIntervalMs) fun s v => { s with scoreIntervalMs := v },
  .nat64 "fetch_interval_secs" (·.fetchIntervalSecs) fun s v => { s with fetchIntervalSecs := v },
  .text "ping_path" (·.pingPath) fun s v => { s with pingPath := v },
  .nat64 "ping_timeout_ms" (·.pingTimeoutMs) fun s v => { s with pingTimeoutMs := v },
  .nat64 "window_size" (·.windowSize) fun s v => { s with windowSize := v },
  .number "failure_rate_threshold" (·.failureRateThreshold)
    fun s v => { s with failureRateThreshold := v },
  .nat64 "fetch_timeout_ms" (·.fetchTimeoutMs) fun s v => { s with fetchTimeoutMs := v },
  .nat32 "fetch_max_attempts" (·.fetchMaxAttempts) fun s v => { s with fetchMaxAttempts := v },
  .flag "fetch_hosts_from_server" (·.fetchHostsFromServer)
    fun s v => { s with fetchHostsFromServer := v }]

end AvailabilitySettings

namespace MetricsSettings

/-- The fields of the section. -/
def fields : Section MetricsSettings := [
  .flag "enabled" (·.enabled) fun s v => { s with enabled := v },
  .flag "report_logs" (·.reportLogs) fun s v => { s with reportLogs := v },
  .text "prefix" (·.namePrefix) fun s v => { s with namePrefix := v },
  .nat64 "flush_interval_secs" (·.flushIntervalSecs) fun s v => { s with flushIntervalSecs := v },
  .nat64 "queue_capacity" (·.queueCapacity) fun s v => { s with queueCapacity := v },
  .nat64 "batch_size" (·.batchSize) fun s v => { s with batchSize := v },
  .nat64 "http_timeout_ms" (·.httpTimeoutMs) fun s v => { s with httpTimeoutMs := v },
  .nat32 "max_try_times" (·.maxTryTimes) fun s v => { s with maxTryTimes := v },
  .text "counter_path" (·.counterPath) fun s v => { s with counterPath := v },
  .text "general_path" (·.generalPath) fun s v => { s with generalPath := v },
  .text "log_path" (·.logPath) fun s v => { s with logPath := v }]

end MetricsSettings

namespace DiagnosticsSettings

/-- The fields of the section. -/
def fields : Section DiagnosticsSettings := [
  .text "log_level" (·.logLevel) fun s v => { s with logLevel := v },
  .flag "json_logs" (·.jsonLogs) fun s v => { s with jsonLogs := v }]

end DiagnosticsSettings

namespace Settings

/-- The fields of the settings. -/
def fields : Section Settings := [
  .text "tenant_id" (·.tenantId) fun s v => { s with tenantId := v },
  .optionalText "project_id" (·.projectId) fun s v => { s with projectId := v },
  .text "region" (·.region) fun s v => { s with region := v },
  .texts "hosts" (·.hosts) fun s v => { s with hosts := v },
  ⟨"regions", fun s => Regions.toJson s.regions,
    fun strict j s => (Regions.ofJson? strict j).map fun v => { s with regions := v }⟩,
  .optionalText "host_header" (·.hostHeader) fun s v => { s with hostHeader := v },
  .text "schema" (·.schema) fun s v => { s with schema := v },
  .flag "keep_alive" (·.keepAlive) fun s v => { s with keepAlive := v },
  .of "headers" (Json.table? Json.text?) (Json.ofTable .string) (·.headers)
    fun s v => { s with headers := v },
  .sub "auth" AuthSettings.fields {} (·.auth) fun s v => { s with auth := v },
  .sub "caller" CallerSettings.fields {} (·.caller) fun s v => { s with caller := v },
  .sub "availability" AvailabilitySettings.fields {} (·.availability)
    fun s v => { s with availability := v },
  .sub "metrics" MetricsSettings.fields {} (·.metrics) fun s v => { s with metrics := v },
  .sub "observability" DiagnosticsSettings.fields {} (·.diagnostics)
    fun s v => { s with diagnostics := v }]

/-- Settings read over the defaults. -/
def ofJson? (strict : Bool) (j : Json) : Option Settings := fields.read? strict j {}

/-- Settings as a value. -/
def toJson (s : Settings) : Json := fields.write s

end Settings

end Courier
