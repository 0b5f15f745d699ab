import Courier.Exchange.Script
import Courier.Proofs.Exchange.Requests
import Courier.Proofs.Headers
import Courier.Proofs.Telemetry.Traffic
import Courier.Telemetry.Report

/-!
# What a report posts

A report takes everything out of the queues of a sink, makes batches of it and posts them one
after the other. What it did is the list of its **attempts** (`Courier.Report.Attempt`): which
batch was posted, and what came of it. On every script of answers this list is

* a **delivery** of the batches (`Courier.Report.IsDelivery`): each batch in turn is posted once,
  or again as long as the time was over, but no more often than the settings allow. What comes
  of one batch is of no consequence for the others;
* **what was sent and answered** (`Courier.Report.Sends`): each attempt is one request that
  carries its batch to the path of the batch on the host for it (`Courier.Report.Carries`), and it
  comes to what was answered to this request (`Courier.Report.Yields`). Only if the host and the
  path are no address nothing is sent, and the attempt counts as refused.

The batches themselves hold what was drained from the queues, in order and without anything
twice (`Courier.Report.IsBatching`).
-/

namespace Courier.Report

variable {α β : Type}

/-! ### Pieces of a list -/

theorem flatten_chunks (size : Nat) (l : List β) : (chunks size l).flatten = l := by
  fun_induction chunks size l with
  | case1 => rfl
  | case2 x r ih => rw [List.flatten_cons, ih, List.take_append_drop]

/-- **No piece is empty or too long.** -/
theorem length_of_mem_chunks {size : Nat} {l b : List β} (h : b ∈ chunks size l) :
    b ≠ [] ∧ b.length ≤ max size 1 := by
  fun_induction chunks size l with
  | case1 => cases h
  | case2 x r ih =>
    rcases List.mem_cons.1 h with rfl | h
    · have hlength := List.length_take_le (size - 1 + 1) (x :: r)
      exact ⟨by simp, by omega⟩
    · exact ih h

/-! ### Batches -/

/-- The batches of a report, those of each kind in their order. -/
structure Batches (α : Type) where
  counters : List (List (MetricRecord α))
  general : List (List (MetricRecord α))
  lines : List (List LogLine)

/-- Batches as they are posted: counters before the other records and these before the lines,
each kind under its own path. -/
def Batches.posts (s : MetricsSettings) (b : Batches α) : List (Post α) :=
  b.counters.map (⟨s.counterPath, .metrics ·⟩) ++ b.general.map (⟨s.generalPath, .metrics ·⟩)
    ++ b.lines.map (⟨s.logPath, .logs ·⟩)

/-- A list in batches: one after the other they hold the list, and none of them is empty or too
large. -/
structure IsCut (size : Nat) (l : List β) (batches : List (List β)) : Prop where
  flatten : batches.flatten = l
  ne_nil : ∀ b ∈ batches, b ≠ []
  length_le : ∀ b ∈ batches, b.length ≤ size

/-- **Records and lines in batches.** -/
structure IsBatching (size : Nat) (counters general : List (MetricRecord α))
    (lines : List LogLine) (b : Batches α) : Prop where
  counters : IsCut size counters b.counters
  general : IsCut size general b.general
  lines : IsCut size lines b.lines

theorem isCut_chunks (size : Nat) (l : List β) :
    IsCut (max size 1) l (chunks (max size 1) l) where
  flatten := flatten_chunks _ l
  ne_nil _ hb := (length_of_mem_chunks hb).1
  length_le _ hb := by
    have := (length_of_mem_chunks hb).2
    omega

/-- The posts for records and lines are those of their batches. -/
theorem exists_batches (s : MetricsSettings) (counters general : List (MetricRecord α))
    (lines : List LogLine) :
    ∃ b : Batches α, posts s counters general lines = b.posts s
      ∧ IsBatching (max s.batchSize 1) counters general lines b := by
  let cut {β : Type} (l : List β) := chunks (max s.batchSize 1) l
  exact ⟨⟨cut counters, cut general, cut lines⟩, rfl, isCut_chunks _ _, isCut_chunks _ _,
    isCut_chunks _ _⟩

/-! ### Attempts -/

/-- A batch that was posted, and what came of it. -/
abbrev Attempt (α : Type) := Post α × PostResult

/-- **The attempts at one batch**: at least one and at most so many. Another one is made only
after the time was over, and then always, as long as there may be one. -/
structure IsRound (limit : Nat) (results : List PostResult) : Prop where
  atLeastOne : results ≠ []
  length_le : results.length ≤ limit
  again : ∀ r ∈ results.dropLast, r = .timedOut
  givenUp : results.getLast? = some .timedOut → results.length = limit

/-- **The attempts at batches in turn**, one round for each. -/
inductive IsDelivery (limit : Nat) : List (Post α) → List (Attempt α) → Prop where
  | nil : IsDelivery limit [] []
  | cons {p : Post α} {rest : List (Post α)} {results : List PostResult}
      {attempts : List (Attempt α)} (round : IsRound limit results)
      (others : IsDelivery limit rest attempts) :
      IsDelivery limit (p :: rest) (results.map (p, ·) ++ attempts)

theorem isRound_singleton {limit : Nat} {r : PostResult} (h : r ≠ .timedOut) :
    IsRound (limit + 1) [r] where
  atLeastOne := List.cons_ne_nil _ _
  length_le := by simp
  again := by simp
  givenUp := by
    intro hr
    exact absurd (Option.some.inj hr) h

/-- The last attempt that is allowed. -/
theorem isRound_last (r : PostResult) : IsRound 1 [r] where
  atLeastOne := List.cons_ne_nil _ _
  length_le := Nat.le_refl 1
  again := by simp
  givenUp _ := rfl

theorem IsRound.cons {limit : Nat} {results : List PostResult} (h : IsRound limit results) :
    IsRound (limit + 1) (.timedOut :: results) where
  atLeastOne := List.cons_ne_nil _ _
  length_le := Nat.succ_le_succ h.length_le
  again := by
    intro r hr
    rw [List.dropLast_cons_of_ne_nil h.atLeastOne] at hr
    rcases List.mem_cons.1 hr with rfl | hr
    · rfl
    · exact h.again r hr
  givenUp := by
    intro hlast
    obtain ⟨r, rest, rfl⟩ := List.exists_cons_of_ne_nil h.atLeastOne
    rw [List.getLast?_cons_cons] at hlast
    rw [List.length_cons, h.givenUp hlast]

/-! ### Posting on a script -/

/-- Attempts made one after the other, from one place in a script to another. -/
inductive Posted (post : Post α → OnScript PostResult) :
    Playback → List (Attempt α) → Playback → Prop where
  | nil {w : Playback} : Posted post w [] w
  | cons {w w' w'' : Playback} {p : Post α} {r : PostResult} {attempts : List (Attempt α)}
      (first : (post p).run w = pure (r, w')) (others : Posted post w' attempts w'') :
      Posted post w ((p, r) :: attempts) w''

theorem Posted.append {post : Post α → OnScript PostResult} {w w' w'' : Playback}
    {attempts attempts' : List (Attempt α)} (h : Posted post w attempts w')
    (h' : Posted post w' attempts' w'') : Posted post w (attempts ++ attempts') w'' := by
  induction h with
  | nil => exact h'
  | cons first _ ih => exact .cons first (ih h')

/-- **One batch** is posted in a round, whatever the answers are. -/
theorem exists_run_send (post : Post α → OnScript PostResult) (p : Post α) (more : Nat)
    (w : Playback) :
    ∃ results accepted w', (send (post p) more).run w = pure (accepted, w')
      ∧ IsRound (more + 1) results ∧ Posted post w (results.map (p, ·)) w' := by
  induction more generalizing w with
  | zero =>
    rcases h : (post p).run w with ⟨r, w'⟩
    refine ⟨[r], decide (r = .accepted), w', ?_, isRound_last r, .cons h .nil⟩
    rw [send, StateT.run_bind, h]
    rfl
  | succ more ih =>
    rcases h : (post p).run w with ⟨r, w₁⟩
    rw [send, StateT.run_bind, h]
    cases r with
    | accepted =>
      exact ⟨[.accepted], true, w₁, rfl, isRound_singleton (by decide), .cons h .nil⟩
    | refused =>
      exact ⟨[.refused], false, w₁, rfl, isRound_singleton (by decide), .cons h .nil⟩
    | timedOut =>
      obtain ⟨results, accepted, w', hrun, hround, hposted⟩ := ih w₁
      exact ⟨.timedOut :: results, accepted, w', hrun, hround.cons, .cons h hposted⟩

/-- **All batches** are posted, each in its round. -/
theorem exists_run_sendAll (s : MetricsSettings) (post : Post α → OnScript PostResult)
    (posts : List (Post α)) (w : Playback) :
    ∃ attempts w', (sendAll s post posts).run w = pure ((), w')
      ∧ IsDelivery (max s.maxTryTimes 1) posts attempts ∧ Posted post w attempts w' := by
  induction posts generalizing w with
  | nil => exact ⟨[], w, rfl, .nil, .nil⟩
  | cons p rest ih =>
    obtain ⟨results, accepted, w₁, hsend, hround, hposted⟩ :=
      exists_run_send post p (s.maxTryTimes - 1) w
    obtain ⟨attempts, w', hrest, hdelivery, hposted'⟩ := ih w₁
    have hlimit : s.maxTryTimes - 1 + 1 = max s.maxTryTimes 1 := by omega
    rw [hlimit] at hround
    refine ⟨results.map (p, ·) ++ attempts, w', ?_, .cons hround hdelivery,
      hposted.append hposted'⟩
    rw [sendAll, StateT.run_bind, hsend]
    exact hrest

/-! ### What is sent and what is answered -/

/-- **What is written of a batch**: a JSON object whose only member holds the records or the lines,
each with its fields. -/
structure Writes (bytes : Bytes) (b : Batch Binary64) : Prop where
  metrics : ∀ records, b = .metrics records →
    bytes = utf8 (Json.compact (.object [("metrics", .array (records.map fun r => .object
      [("name", .string r.name), ("value", .number (.float r.value)), ("type", .string r.kind.text),
        ("timestamp", .nat r.timestamp), ("tags", Json.ofTable .string r.tags)]))]))
  logs : ∀ lines, b = .logs lines →
    bytes = utf8 (Json.compact (.object [("logs", .array (lines.map fun l => .object
      [("id", .string l.id), ("message", .string l.message), ("level", .string l.level.text),
        ("timestamp", .nat l.timestamp)]))]))

/-- **A request that carries a batch** to an address. -/
structure Carries (timeout : Nat) (u : Url) (b : Batch Binary64) (q : Request) : Prop where
  goes : q.GoesTo "POST" u timeout
  contentType : (q.headers.values .contentType).map (·.bytes) = [utf8 "application/json"]
  body : Writes q.body b

/-- **What an answer to a batch yields**: whether the status is an error, whatever becomes of the
body of the reply; and without a status whether the time was over. -/
inductive Yields : Outcome → PostResult → Prop where
  | accepted {o : Outcome} {status : Nat} (h : o.statusCode? = some status)
      (noError : ¬(400 ≤ status ∧ status < 600)) : Yields o .accepted
  | refused {o : Outcome} {status : Nat} (h : o.statusCode? = some status)
      (error : 400 ≤ status ∧ status < 600) : Yields o .refused
  | timedOut : Yields (.failed .timedOut) .timedOut
  | broken {reason : String} : Yields (.failed (.broken reason)) .refused

/-- **Attempts with their requests**, the next answer being the one of this number. An attempt
sends a request if there is an address with a host that it can go to, and only then. -/
inductive Sends (s : MetricsSettings) (schema : String) (hostOf : String → String)
    (script : Script) : Nat → List (Attempt Binary64) → List Request → Prop where
  | nil {n : Nat} : Sends s schema hostOf script n [] []
  | request {n : Nat} {p : Post Binary64} {r : PostResult} {attempts : List (Attempt Binary64)}
      {u : Url} {q : Request} {requests : List Request}
      (address : Url.parse (schema ++ "://" ++ hostOf p.path ++ p.path) = .ok u)
      (host : u.hostText? ≠ none) (carries : Carries s.httpTimeout u p.batch q)
      (answer : Yields (script.exchange n).outcome r)
      (others : Sends s schema hostOf script (n + 1) attempts requests) :
      Sends s schema hostOf script n ((p, r) :: attempts) (q :: requests)
  | none {n : Nat} {p : Post Binary64} {attempts : List (Attempt Binary64)}
      {requests : List Request}
      (noAddress : ∀ u, Url.parse (schema ++ "://" ++ hostOf p.path ++ p.path) = .ok u →
        u.hostText? = none)
      (others : Sends s schema hostOf script n attempts requests) :
      Sends s schema hostOf script n ((p, .refused) :: attempts) requests

theorem yields_result (o : Outcome) : Yields o (result o) := by
  have hstatus {status : Nat} (h : o.statusCode? = some status) : Yields o (ofStatus status) := by
    unfold ofStatus
    split
    next herror => exact .refused h herror
    next hno => exact .accepted h hno
  cases o with
  | reply r => exact hstatus rfl
  | cut status headers fault => exact hstatus rfl
  | failed fault =>
    cases fault with
    | timedOut => exact .timedOut
    | broken reason => exact .broken

theorem writes_body (b : Batch Binary64) : Writes (body b) b where
  metrics records hb := by
    simp only [body, hb]
    rfl
  logs lines hb := by
    simp only [body, hb]
    rfl

/-- **There is a request for a batch** if its address has a host, and it carries the batch there. -/
theorem exists_request? (s : MetricsSettings) {schema host : String} {p : Post Binary64} {u : Url}
    (hparse : Url.parse (schema ++ "://" ++ host ++ p.path) = .ok u) (hhost : u.hostText? ≠ none) :
    ∃ q, request? s schema host p = some q ∧ Carries s.httpTimeout u p.batch q := by
  obtain ⟨r, hr, hgoes, -, hfields⟩ := Request.exists_to? hparse hhost "POST" s.httpTimeout
  obtain ⟨v, hv⟩ := HeaderValue.exists_ofText?_eq_some_iff.2
    (show HeaderValue.isValueText "application/json" = true by decide)
  refine ⟨{ r with headers := r.headers.append .contentType v, body := body p.batch }, ?_,
    ⟨hgoes.method, hgoes.url, hgoes.timeout⟩, ?_, writes_body p.batch⟩
  · simp [request?, hr, Request.withField?, hv]
  · have htype := hfields .contentType (by decide)
    rw [Headers.values, List.map_eq_nil_iff] at htype
    simp [Headers.append, Headers.values, htype, HeaderValue.ofText?_eq_some_iff.1 hv]

/-- Attempts send their requests, and come to what is answered to these. -/
theorem Posted.sends {s : MetricsSettings} {schema : String} {hostOf : String → String}
    {w w' : Playback} {attempts : List (Attempt Binary64)}
    (h : Posted (post s schema hostOf) w attempts w') :
    ∃ requests, w'.sent = w.sent ++ requests
      ∧ Sends s schema hostOf w.script w.sent.length attempts requests := by
  induction h with
  | nil => exact ⟨[], (List.append_nil _).symm, .nil⟩
  | @cons w w₁ w' p r attempts first _ ih =>
    obtain ⟨requests, hsent, hsends⟩ := ih
    rw [post] at first
    -- whether there is a request is a matter of the address alone
    by_cases haddress : ∃ u, Url.parse (schema ++ "://" ++ hostOf p.path ++ p.path) = .ok u
        ∧ u.hostText? ≠ none
    · obtain ⟨u, hparse, hhost⟩ := haddress
      obtain ⟨q, hq, hcarries⟩ := exists_request? s hparse hhost
      rw [hq] at first
      obtain ⟨rfl, rfl⟩ := Prod.mk.inj first
      refine ⟨q :: requests, ?_, .request hparse hhost hcarries (yields_result _) ?_⟩
      · rw [hsent]
        exact List.append_assoc _ _ _
      · -- the rest of the attempts is answered by what follows in the script
        have hlength : (w.exchange q).2.sent.length = w.sent.length + 1 := List.length_append
        rw [← hlength]
        exact hsends
    · have hnone (u : Url)
          (hparse : Url.parse (schema ++ "://" ++ hostOf p.path ++ p.path) = .ok u) :
          u.hostText? = none :=
        Decidable.of_not_not fun hhost => haddress ⟨u, hparse, hhost⟩
      have hq : request? s schema (hostOf p.path) p = none := by
        rw [request?, Request.to?_eq_none_of hnone]
        rfl
      rw [hq] at first
      obtain ⟨rfl, rfl⟩ := Prod.mk.inj first
      exact ⟨requests, hsent, .none hnone hsends⟩

/-! ### A whole report -/

/-- What is taken out of the queues is everything that waits, and nothing waits after it. -/
theorem exists_drain [Scalar α] (s : MetricsSettings) (p : Pipeline α) (now : Nat) :
    let drained := (Aggregator.empty.addAll p.metrics.items).drain s.namePrefix now
    ∃ p', drain s p now
        = (posts s drained.1 drained.2.1 ((p.logs.map (·.items)).getD []), p')
      ∧ p'.metrics.items = [] ∧ (p'.logs.map (·.items)).getD [] = [] := by
  intro drained
  have htake {β : Type} (q : Queue β p.capacity) : q.items.take p.capacity = q.items :=
    List.take_of_length_le q.bounded
  have hdrop {β : Type} (q : Queue β p.capacity) : q.items.drop p.capacity = [] :=
    List.drop_eq_nil_of_le q.bounded
  cases hlogs : p.logs with
  | none =>
    refine ⟨(p.takeMetrics p.capacity).2, ?_, hdrop p.metrics, ?_⟩
    · simp [drain, Pipeline.takeMetrics, Pipeline.takeLogs, Queue.take, hlogs, htake, drained]
    · simp [Pipeline.takeMetrics, hlogs]
  | some q =>
    refine ⟨{ (p.takeMetrics p.capacity).2 with logs := some (q.take p.capacity).2 }, ?_,
      hdrop p.metrics, hdrop q⟩
    simp [drain, Pipeline.takeMetrics, Pipeline.takeLogs, Queue.take, hlogs, htake, drained]

/-- **A report delivers everything that waits, once**, on every script of answers. It empties
the queues, cuts what was drained and the log lines into batches, and posts each batch in its
turn: at least once, again only directly after the time was over, and not too often, whatever
came of the batches before it. Each time it sends a request that carries the batch to its address,
and what is answered to this request is what comes of it. -/
theorem exists_run_flush (s : MetricsSettings) (schema : String) (hostOf : String → String)
    (sink : Sink Binary64) (w : Playback) :
    let drained := (Aggregator.empty.addAll sink.waitingMetrics).drain s.namePrefix
      (w.script.now w.readings)
    ∃ sink' w' batches attempts requests,
      (flush s schema hostOf sink : OnScript _).run w = pure (sink', w')
        ∧ sink'.waitingMetrics = [] ∧ sink'.waitingLines?.getD [] = []
        ∧ drained.2.2 = Aggregator.empty
        ∧ IsBatching (max s.batchSize 1) drained.1 drained.2.1 (sink.waitingLines?.getD []) batches
        ∧ IsDelivery (max s.maxTryTimes 1) (batches.posts s) attempts
        ∧ w'.sent = w.sent ++ requests
        ∧ Sends s schema hostOf w.script w.sent.length attempts requests := by
  intro drained
  obtain ⟨batches, hposts, hbatching⟩ :=
    exists_batches s drained.1 drained.2.1 (sink.waitingLines?.getD [])
  obtain ⟨pipeline⟩ := sink
  cases pipeline with
  | none =>
    -- a disabled sink holds nothing, so there is nothing to post
    have hnone : posts s drained.1 drained.2.1 [] = [] := by
      have hempty : posts s ([] : List (MetricRecord Binary64)) [] [] = [] := by
        simp [posts, chunks]
      exact hempty
    refine ⟨⟨none⟩, w, batches, [], [], rfl, rfl, rfl, rfl, hbatching, ?_, ?_, .nil⟩
    · rw [← hposts]
      dsimp only [Sink.waitingLines?, Option.bind_none, Option.getD_none]
      rw [hnone]
      exact .nil
    · exact (List.append_nil _).symm
  | some p =>
    obtain ⟨p', hdrain, hmetrics, hlines⟩ := exists_drain s p (w.script.now w.readings)
    obtain ⟨attempts, w', hrun, hdelivery, hposted⟩ :=
      exists_run_sendAll s (post s schema hostOf) (drain s p (w.script.now w.readings)).1 w.now.2
    obtain ⟨requests, hsent, hsends⟩ := hposted.sends
    rw [hdrain] at hrun hdelivery
    refine ⟨⟨some p'⟩, w', batches, attempts, requests, ?_, hmetrics, ?_, rfl, hbatching, ?_,
      hsent, hsends⟩
    · rw [flush]
      dsimp only
      rw [StateT.run_bind, OnScript.run_now]
      have hclock : w.now.1 = w.script.now w.readings := rfl
      simp only [pure_bind, StateT.run_bind, hclock, hdrain]
      rw [hrun]
      rfl
    · exact hlines
    · rw [← hposts]
      exact hdelivery

/-- A collector that takes too long at first, and then refuses a batch and takes the next. -/
def slowAtFirst : Script :=
  { (default : Script) with
    exchange := fun n =>
      { outcome := if n = 0 then .failed .timedOut
          else .reply ⟨if n = 1 then 503 else 200, .empty, []⟩
        cost := 0 }
    now := fun _ => 7 }

/-- A sink with a sample and a line. -/
def oneOfEach (s : MetricsSettings) : Sink Binary64 :=
  (Sink.ofSettings s).emitAll
    [.metric ⟨.counter, "c", Scalar.ofNat 1, ["k:v"]⟩, .log ⟨"id", "m", .info, 5⟩]

/-- The sample is posted once more after the time was over, and the line is posted although the
sample was refused. -/
theorem exists_run_flush_slowAtFirst :
    let s : MetricsSettings := { maxTryTimes := 2, reportLogs := true }
    let sample := utf8 ("\x7b\"metrics\":[\x7b\"name\":\"rec.sdk.c\",\"value\":1.0,"
      ++ "\"type\":\"counter\",\"timestamp\":7,\"tags\":\x7b\"k\":\"v\"\x7d\x7d]\x7d")
    let line := utf8 ("\x7b\"logs\":[\x7b\"id\":\"id\",\"message\":\"m\",\"level\":\"info\","
      ++ "\"timestamp\":5\x7d]\x7d")
    ∃ sink' w', (flush s "http" (fun _ => "h") (oneOfEach s) : OnScript _).run (.start slowAtFirst)
        = pure (sink', w')
      ∧ sink'.waitingMetrics = [] ∧ sink'.waitingLines?.getD [] = []
      ∧ (w'.sent.map fun q => (q.method, q.url.text, q.body))
        = [("POST", "http://h/api/counter", sample), ("POST", "http://h/api/counter", sample),
          ("POST", "http://h/api/log", line)] := by
  intro s sample line
  obtain ⟨sink', w', -, -, -, hrun, hmetrics, hlines, -⟩ :=
    exists_run_flush s "http" (fun _ => "h") (oneOfEach s) (.start slowAtFirst)
  have hsent : (((flush s "http" (fun _ => "h") (oneOfEach s) : OnScript _).run
        (.start slowAtFirst)).2.sent.map fun q => (q.method, q.url.text, q.body))
      = [("POST", "http://h/api/counter", sample), ("POST", "http://h/api/counter", sample),
        ("POST", "http://h/api/log", line)] := by decide +kernel
  rw [hrun] at hsent
  exact ⟨sink', w', hrun, hmetrics, hlines, hsent⟩

end Courier.Report
