import Courier.Client.Basic
import Courier.Exchange.Script
import Courier.Proofs.Hosts.History
import Courier.Proofs.Settings.Validation
import Courier.Proofs.Telemetry.Delivery

/-!
# Clients of valid settings

A client is built in two steps that can fail: its settings are checked, and a directory is made
of their hosts. After a check the second step **cannot fail**, and more than that: none of the
parts of a client has to make up for what the settings lack. `Courier.Client.IsReady` says so
part by part,

* the directory serves every path by the hosts of the settings, and none of these is blank;
* there is something to sign with that is not blank;
* windows, queues and batches are of the size that was given, although each of them would
  replace zero by one;
* no ticker that is ever asked has the period zero.

Each of the parts rests on a rule or two of the check (`Courier.Settings.IsSound`), and
`Courier.Client.exists_new_of_isValid` puts them together.
-/

namespace Courier

/-! ### The parts of a client -/

namespace Settings.IsSound

variable {s : Settings}

/-- Maps are fetched only for a project that has a name. -/
theorem projectId_fetcher_ne (h : s.IsSound) : ∀ f ∈ s.fetcher, f.projectId ≠ "" := by
  intro f hf
  cases hid : s.projectId with
  | none => simp [fetcher, hid] at hf
  | some id =>
    have hname := h.project id hid
    simp only [fetcher, hid] at hf
    split at hf
    · cases hf
      rintro rfl
      exact hname trim_empty
    · cases hf

/-- **There is a directory**, with just the hosts of the settings. -/
theorem exists_ofHosts (h : s.IsSound) :
    ∃ d, Directory.ofHosts s.resolvedHosts s.fetcher = .ok d ∧ d.isShut = false ∧
      d.current.paths.entries = [(defaultPath, s.resolvedHosts)] := by
  have hproject : s.fetcher.any (·.projectId = "") = false := by
    rw [Option.any_eq_false]
    intro f hf
    simpa using h.projectId_fetcher_ne f hf
  have hempty : s.resolvedHosts.isEmpty = false := by simpa using h.hosts_ne_nil
  have hserved : ((Table.empty.insert defaultPath s.resolvedHosts).get? defaultPath).any
      (!·.isEmpty) = true := by
    rw [Table.get?_insert, if_pos rfl, Option.any_some, hempty]
    rfl
  refine ⟨⟨⟨_, hserved⟩, false⟩, ?_, rfl, rfl⟩
  simp [Directory.ofHosts, hproject, HostMap.ofHosts, hempty, HostMap.ofPaths, hserved]

/-- The region to sign with has a name: its own, or that of its entry. -/
theorem credentialRegion_ne (h : s.IsSound) : s.credentialRegion ≠ "" := by
  have hregion : s.region ≠ "" := by
    intro hempty
    exact h.region (by rw [hempty, trim_empty])
  rw [credentialRegion, Regions.credentialRegion]
  split
  · split
    · exact hregion
    · assumption
  · exact hregion

/-- **What requests are signed with** is there, and is not blank. -/
theorem authentication_eq (h : s.IsSound) :
    (s.auth.useAirAuth = true → ∃ k : TenantKey, s.authentication = .tenant k ∧
        trim k.token ≠ "" ∧ trim k.tenantId ≠ "") ∧
      (s.auth.useAirAuth = false → ∃ c : Credential, s.authentication = .keyed c ∧
        trim c.accessKey ≠ "" ∧ trim c.secretKey ≠ "" ∧ c.region ≠ "") := by
  constructor
  · intro hmode
    have heq : s.authentication = .tenant ⟨s.auth.airAuthToken.getD "", s.tenantId⟩ := by
      rw [authentication, if_pos hmode]
    exact ⟨_, heq, h.token hmode, h.tenant⟩
  · intro hmode
    have heq : ∃ token, s.authentication = .keyed ⟨s.auth.accessKey.getD "",
        s.auth.secretKey.getD "", s.credentialRegion, s.auth.service, token⟩ := by
      rw [authentication, hmode, if_neg Bool.false_ne_true]
      exact ⟨_, rfl⟩
    obtain ⟨token, heq⟩ := heq
    obtain ⟨haccess, hsecret⟩ := h.keys hmode
    exact ⟨_, heq, haccess, hsecret, h.credentialRegion_ne⟩

/-- **Every window is of the size that was given**, whatever is recorded. -/
theorem size_window (h : s.IsSound) (events : List TrackRecord.Event) (host : String) :
    ((TrackRecord.after Binary64 (.ofSize s.availability.windowSize) events).window host).size
      = s.availability.windowSize := by
  have hfaithful := (TrackRecord.isFaithful_ofSize s.availability.windowSize).after
    (α := Binary64) events
  rw [hfaithful.window_eq, Window.size_putAll, Window.size_ofSize,
    Nat.max_eq_left h.windowSize]

/-- **The queues have the room that was asked for.** -/
theorem exists_pipeline (h : s.IsSound) (henabled : s.metrics.enabled = true) :
    ∃ p, s.sink.pipeline = some p ∧ p.capacity = s.metrics.queueCapacity := by
  refine ⟨_, by rw [sink, if_pos henabled, Sink.ofSettings], ?_⟩
  exact Nat.max_eq_left h.queueCapacity

/-- **Batches are of the size that was given.** -/
theorem posts_eq (h : s.IsSound) (counters general : List (MetricRecord Binary64))
    (lines : List LogLine) :
    Report.posts s.metrics counters general lines =
      Report.Batches.posts s.metrics ⟨Report.chunks s.metrics.batchSize counters,
        Report.chunks s.metrics.batchSize general, Report.chunks s.metrics.batchSize lines⟩ := by
  rw [Report.posts, Nat.max_eq_left h.batchSize]
  rfl

end Settings.IsSound

/-- Reports are never made without a pause, as an interval of zero counts as a second. -/
theorem MetricsSettings.flushInterval_pos (s : MetricsSettings) : 0 < s.flushInterval := by
  rw [flushInterval]
  omega

/-- What an upkeep starts from, if there is a directory of the hosts. -/
theorem Upkeep.new_of_ofHosts {m : Type → Type} [Monad m] [Outside m] {s : AvailabilitySettings}
    {hosts : List String} {fetcher : Option Fetcher} {d : Directory}
    (hd : Directory.ofHosts hosts fetcher = .ok d) (scorer : Scorer m) (now : Nat) :
    Upkeep.new s hosts scorer fetcher now = .ok ⟨d, scorer, .ofSize s.windowSize, fetcher,
      .start s.scoreInterval now, .start s.fetchInterval now, []⟩ := by
  rw [Upkeep.new, hd]
  rfl

/-! ### The client -/

namespace Client

variable {m : Type → Type} [Monad m] [Outside m]

/-- **What a new client needs** of settings, so that none of its parts has to make up for what
the settings lack. -/
structure IsReady (s : Settings) (c : Client m) : Prop where
  settings_eq : c.settings = s
  /-- The host map is that of the resolved hosts, and it serves all paths by them. -/
  paths : c.upkeep.directory.current.paths.entries = [(defaultPath, s.resolvedHosts)]
  hosts_ne_nil : s.resolvedHosts ≠ []
  host_ne_blank : ∀ host ∈ s.resolvedHosts, trim host ≠ ""
  fetcher_eq : c.upkeep.fetcher = s.fetcher
  tenant : s.auth.useAirAuth = true → ∃ k : TenantKey, c.caller.authentication = .tenant k ∧
    trim k.token ≠ "" ∧ trim k.tenantId ≠ ""
  keyed : s.auth.useAirAuth = false → ∃ k : Credential, c.caller.authentication = .keyed k ∧
    trim k.accessKey ≠ "" ∧ trim k.secretKey ≠ "" ∧ k.region ≠ ""
  /-- Windows are of the size that was given, whatever is recorded. -/
  windowSize : ∀ events host,
    ((TrackRecord.after Binary64 c.upkeep.record events).window host).size
      = s.availability.windowSize
  queueCapacity : s.metrics.enabled = true →
    ∃ p, c.sink.pipeline = some p ∧ p.capacity = s.metrics.queueCapacity
  /-- Reports are cut into batches of the size that was given. -/
  batchSize : ∀ (counters general : List (MetricRecord Binary64)) lines,
    Report.posts c.settings.metrics counters general lines =
      Report.Batches.posts c.settings.metrics ⟨Report.chunks s.metrics.batchSize counters,
        Report.chunks s.metrics.batchSize general, Report.chunks s.metrics.batchSize lines⟩
  scorePeriod : 0 < c.upkeep.scoreTicker.period
  fetchPeriod : c.upkeep.fetcher.isSome = true → 0 < c.upkeep.fetchTicker.period
  reportPeriod : c.settings.metrics.enabled = true → 0 < c.reportTicker.period
  keepalivePeriod : c.settings.keepAlive = true → 0 < c.keepaliveTicker.period

/-- **Valid settings are enough for a client**, and the client makes use of all they say: of
every settings that pass the check there is one, by whatever its hosts are ranked and whenever it
starts. -/
theorem exists_new_of_isValid (s : Settings) (hvalid : s.isValid = true)
    (scorer : Option (Scorer m)) (now : Nat) :
    ∃ c, new s scorer now = .ok c ∧ c.IsReady s := by
  have h : s.IsSound := s.isValid_iff_isSound.1 hvalid
  obtain ⟨d, hd, -, hpaths⟩ := h.exists_ofHosts
  obtain ⟨htenant, hkeyed⟩ := h.authentication_eq
  refine ⟨_, by
    rw [new, Settings.check_of_isValid hvalid]
    dsimp only
    rw [Upkeep.new_of_ofHosts hd], ?_⟩
  exact {
    settings_eq := rfl
    paths := hpaths
    hosts_ne_nil := h.hosts_ne_nil
    host_ne_blank := h.host_ne_blank
    fetcher_eq := rfl
    tenant := htenant
    keyed := hkeyed
    windowSize := fun events host => h.size_window events host
    queueCapacity := fun henabled => h.exists_pipeline henabled
    batchSize := h.posts_eq
    scorePeriod := h.scoreInterval
    fetchPeriod := fun _ => Nat.mul_pos (by decide) h.fetchInterval
    reportPeriod := fun _ => s.metrics.flushInterval_pos
    keepalivePeriod := fun hkeep => Nat.mul_pos (by decide) (h.pingInterval hkeep) }

/-- A client whose hosts and whose region to sign with are those of an entry of the table. -/
theorem exists_new_of_region_hosts :
    let s : Settings := {
      tenantId := "t", projectId := some "p", region := "r", keepAlive := true
      regions := Table.empty.insert "r" ⟨["a", "b"], "q"⟩
      auth := { accessKey := some "k", secretKey := some "l" }
      metrics := { enabled := true } }
    s.isValid = true ∧
      ∃ c : Client OnScript, new s none 0 = .ok c ∧ c.IsReady s := by
  intro s
  have hvalid : s.isValid = true := by decide
  exact ⟨hvalid, exists_new_of_isValid s hvalid none 0⟩

end Client

end Courier
