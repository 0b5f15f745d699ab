import Courier.Telemetry.Sink

/-!
# What goes through a sink

Emissions wait in the queues of a sink until somebody takes them. A clone of a sink has the same
queues, so it makes no difference through which of them something is emitted: what happens to a
sink is one sequence of steps (`Courier.SinkStep`), in whatever order they come.

Beside the sink stands what became of everything that was emitted (`Courier.Flow`), one account
for each queue. Whether an emission was dropped is read off the counter of the sink, for this is
all that can be seen from outside. The account then **balances** at every moment
(`Courier.Flow.Balances`):

* what was accepted is what was taken, and after it what waits, in the order in which it was
  emitted;
* everything emitted was accepted or dropped, and all that was dropped is counted.

That a queue is never longer than it may be is part of its type.
-/

namespace Courier

/-! ### The account of a queue -/

/-- What became of the items that were offered to a queue. -/
structure Flow (β : Type) where
  accepted : List β
  dropped : List β
  taken : List β

namespace Flow

variable {β : Type}

/-- Nothing was offered. -/
def none : Flow β := ⟨[], [], []⟩

/-- One more item, that was dropped or not. -/
def offer (f : Flow β) (x : β) (isDropped : Bool) : Flow β :=
  if isDropped then { f with dropped := f.dropped ++ [x] }
  else { f with accepted := f.accepted ++ [x] }

/-- More items that were taken. -/
def take (f : Flow β) (l : List β) : Flow β := { f with taken := f.taken ++ l }

/-- **The account balances**, given what was emitted and what waits. -/
structure Balances (f : Flow β) (emitted waiting : List β) : Prop where
  inOrder : f.accepted = f.taken ++ waiting
  sublist : f.accepted.Sublist emitted
  length : emitted.length = f.accepted.length + f.dropped.length

theorem balances_none : (none : Flow β).Balances [] [] := ⟨rfl, List.Sublist.refl _, rfl⟩

variable {f : Flow β} {emitted waiting : List β}

/-- An item that finds room waits behind the others. -/
theorem Balances.accept (h : f.Balances emitted waiting) (x : β) :
    (f.offer x false).Balances (emitted ++ [x]) (waiting ++ [x]) where
  inOrder := by
    simp only [offer, Bool.false_eq_true, if_false]
    rw [h.inOrder, List.append_assoc]
  sublist := h.sublist.append (List.Sublist.refl [x])
  length := by
    have := h.length
    simp only [offer, Bool.false_eq_true, if_false, List.length_append, List.length_singleton]
    omega

/-- An item that finds no room leaves what waits as it is. -/
theorem Balances.drop (h : f.Balances emitted waiting) (x : β) :
    (f.offer x true).Balances (emitted ++ [x]) waiting where
  inOrder := h.inOrder
  sublist := h.sublist.trans (List.sublist_append_left _ _)
  length := by
    have := h.length
    simp only [offer, if_true, List.length_append, List.length_singleton]
    omega

theorem Balances.take (h : f.Balances emitted waiting) (count : Nat) :
    (f.take (waiting.take count)).Balances emitted (waiting.drop count) where
  inOrder := by
    simp only [Flow.take]
    rw [List.append_assoc, List.take_append_drop]
    exact h.inOrder
  sublist := h.sublist
  length := h.length

/-- Everything emitted was taken, waits or was dropped. -/
theorem Balances.length_eq (h : f.Balances emitted waiting) :
    emitted.length = f.taken.length + waiting.length + f.dropped.length := by
  rw [h.length, h.inOrder, List.length_append]

end Flow

/-! ### Steps -/

/-- What can be done with a sink while somebody takes from its queues. -/
inductive SinkStep (α : Type) where
  | emit (e : Emission α)
  | takeMetrics (count : Nat)
  | takeLogs (count : Nat)

/-- The samples that are emitted, in their order. -/
def emittedMetrics {α : Type} (l : List (SinkStep α)) : List (MetricEvent α) :=
  l.filterMap fun
    | .emit (.metric e) => some e
    | _ => none

/-- The log lines that are emitted, in their order. -/
def emittedLines {α : Type} (l : List (SinkStep α)) : List LogLine :=
  l.filterMap fun
    | .emit (.log line) => some line
    | _ => none

namespace Sink

variable {α : Type}

/-- The samples that wait. -/
def waitingMetrics (s : Sink α) : List (MetricEvent α) :=
  (s.pipeline.map (·.metrics.items)).getD []

/-- The log lines that wait, `none` if there is no queue for them. -/
def waitingLines? (s : Sink α) : Option (List LogLine) :=
  s.pipeline.bind fun p => p.logs.map (·.items)

/-- Samples taken off their queue, at most so many. -/
def takeMetrics (s : Sink α) (count : Nat) : List (MetricEvent α) × Sink α :=
  match s.pipeline with
  | some p => ((p.takeMetrics count).1, ⟨some (p.takeMetrics count).2⟩)
  | none => ([], s)

/-- Log lines taken off their queue, at most so many. -/
def takeLogs (s : Sink α) (count : Nat) : List LogLine × Sink α :=
  match s.pipeline with
  | some p => ((p.takeLogs count).1, ⟨some (p.takeLogs count).2⟩)
  | none => ([], s)

end Sink

/-- A sink and what went through its queues. -/
structure Traffic (α : Type) where
  sink : Sink α
  metrics : Flow (MetricEvent α)
  lines : Flow LogLine

namespace Traffic

variable {α : Type}

/-- A sink that nothing went through. -/
def start (s : Sink α) : Traffic α := ⟨s, .none, .none⟩

/-- One step. An emission goes on the account of its queue, if there is that queue. -/
def step (t : Traffic α) : SinkStep α → Traffic α
  | .emit e =>
    let sink := t.sink.emit e
    let isDropped := t.sink.dropped < sink.dropped
    match e with
    | .metric e =>
      { t with sink := sink,
               metrics := if t.sink.isEnabled then t.metrics.offer e isDropped else t.metrics }
    | .log line =>
      { t with sink := sink,
               lines :=
                if t.sink.waitingLines?.isSome then t.lines.offer line isDropped else t.lines }
  | .takeMetrics count =>
    let (taken, sink) := t.sink.takeMetrics count
    { t with sink := sink, metrics := t.metrics.take taken }
  | .takeLogs count =>
    let (taken, sink) := t.sink.takeLogs count
    { t with sink := sink, lines := t.lines.take taken }

/-- Steps in turn. -/
def after (t : Traffic α) (l : List (SinkStep α)) : Traffic α := l.foldl step t

end Traffic

/-! ### What an emission does to the queues -/

namespace Queue

variable {β : Type} {capacity : Nat}

theorem offer?_of_full {q : Queue β capacity} (h : q.items.length = capacity) (x : β) :
    q.offer? x = none := dif_neg (by omega)

theorem exists_offer?_of_ne {q : Queue β capacity} (h : q.items.length ≠ capacity) (x : β) :
    ∃ q', q.offer? x = some q' ∧ q'.items = q.items ++ [x] := by
  have := q.bounded
  exact ⟨_, dif_pos (by omega), rfl⟩

end Queue

namespace Pipeline

variable {α : Type} {p : Pipeline α}

theorem addMetric_of_full (hopen : p.isOpen = true) (hfull : p.metrics.items.length = p.capacity)
    (e : MetricEvent α) : p.addMetric e = { p with dropped := p.dropped + 1 } := by
  rw [addMetric, if_pos hopen, Queue.offer?_of_full hfull]

theorem exists_addMetric_of_ne (hopen : p.isOpen = true)
    (hroom : p.metrics.items.length ≠ p.capacity) (e : MetricEvent α) :
    ∃ q, q.items = p.metrics.items ++ [e] ∧ p.addMetric e = { p with metrics := q } := by
  obtain ⟨q, hq, hitems⟩ := Queue.exists_offer?_of_ne hroom e
  exact ⟨q, hitems, by rw [addMetric, if_pos hopen, hq]⟩

theorem addLog_of_none (hlogs : p.logs = none) (line : LogLine) : p.addLog line = p := by
  rw [addLog, hlogs]
  cases p.isOpen <;> rfl

theorem addLog_of_full (hopen : p.isOpen = true) {q : Queue LogLine p.capacity}
    (hlogs : p.logs = some q) (hfull : q.items.length = p.capacity) (line : LogLine) :
    p.addLog line = { p with dropped := p.dropped + 1 } := by
  rw [addLog, hopen, hlogs]
  dsimp only
  rw [Queue.offer?_of_full hfull]

theorem exists_addLog_of_ne (hopen : p.isOpen = true) {q : Queue LogLine p.capacity}
    (hlogs : p.logs = some q) (hroom : q.items.length ≠ p.capacity) (line : LogLine) :
    ∃ q', q'.items = q.items ++ [line] ∧ p.addLog line = { p with logs := some q' } := by
  obtain ⟨q', hq', hitems⟩ := Queue.exists_offer?_of_ne hroom line
  refine ⟨q', hitems, ?_⟩
  rw [addLog, hopen, hlogs]
  dsimp only
  rw [hq']

end Pipeline

namespace Sink

variable {α : Type}

theorem emit_metric (p : Pipeline α) (e : MetricEvent α) :
    emit ⟨some p⟩ (.metric e) = ⟨some (p.addMetric e)⟩ := rfl

theorem emit_log (p : Pipeline α) (line : LogLine) :
    emit ⟨some p⟩ (.log line) = ⟨some (p.addLog line)⟩ := rfl

end Sink

/-! ### The account of a sink -/

namespace Traffic

variable {α : Type} {s : MetricsSettings} {events : List (MetricEvent α)} {lines : List LogLine}
  {t : Traffic α} {p : Pipeline α}

/-- **The account of a sink in use**, given what was emitted: its queues are open and of the size
that the settings give, both accounts balance, and all that was dropped is counted. -/
structure IsKept (s : MetricsSettings) (events : List (MetricEvent α)) (lines : List LogLine)
    (t : Traffic α) (p : Pipeline α) : Prop where
  pipeline : t.sink = ⟨some p⟩
  isOpen : p.isOpen = true
  capacity : p.capacity = max s.queueCapacity 1
  logs : p.logs.isSome = s.reportLogs
  metrics : t.metrics.Balances events p.metrics.items
  /-- Log lines count as emitted only if there is a queue for them. -/
  lines : t.lines.Balances (if s.reportLogs then lines else [])
    ((p.logs.map (·.items)).getD [])
  dropped : p.dropped = t.metrics.dropped.length + t.lines.dropped.length

theorem isKept_start (s : MetricsSettings) :
    IsKept (α := α) s [] [] (start (.ofSettings s)) (.ofSettings s) where
  pipeline := rfl
  isOpen := rfl
  capacity := rfl
  logs := by cases h : s.reportLogs <;> simp [Pipeline.ofSettings, h]
  metrics := Flow.balances_none
  lines := by
    have hwaiting : (((Pipeline.ofSettings (α := α) s).logs.map (·.items)).getD []) = [] := by
      cases h : s.reportLogs <;> simp [Pipeline.ofSettings, h, Queue.empty]
    rw [hwaiting, ite_self]
    exact Flow.balances_none
  dropped := rfl

/-- A sample goes to the queue of samples or is dropped, whatever the other queue holds. -/
theorem IsKept.emit_metric (h : IsKept s events lines t p) (e : MetricEvent α) :
    ∃ p', IsKept s (events ++ [e]) lines (t.step (.emit (.metric e))) p' := by
  obtain ⟨_, metrics, logs⟩ := t
  obtain rfl := h.pipeline
  by_cases hfull : p.metrics.items.length = p.capacity
  · have hadd := Pipeline.addMetric_of_full h.isOpen hfull e
    have hstep : step ⟨⟨some p⟩, metrics, logs⟩ (.emit (.metric e))
        = ⟨⟨some { p with dropped := p.dropped + 1 }⟩, metrics.offer e true, logs⟩ := by
      simp [step, Sink.emit, Sink.dropped, Sink.isEnabled, hadd]
    have hdropped : p.dropped = metrics.dropped.length + logs.dropped.length := h.dropped
    rw [hstep]
    refine ⟨_, rfl, h.isOpen, h.capacity, h.logs, h.metrics.drop e, h.lines, ?_⟩
    simp only [Flow.offer, if_true, List.length_append, List.length_singleton]
    omega
  · obtain ⟨q, hq, hadd⟩ := Pipeline.exists_addMetric_of_ne h.isOpen hfull e
    have hstep : step ⟨⟨some p⟩, metrics, logs⟩ (.emit (.metric e))
        = ⟨⟨some { p with metrics := q }⟩, metrics.offer e false, logs⟩ := by
      simp [step, Sink.emit, Sink.dropped, Sink.isEnabled, hadd]
    rw [hstep]
    refine ⟨_, rfl, h.isOpen, h.capacity, h.logs, ?_, h.lines, h.dropped⟩
    dsimp only
    rw [hq]
    exact h.metrics.accept e

/-- A log line goes to the queue of log lines or is dropped, if there is that queue. -/
theorem IsKept.emit_log (h : IsKept s events lines t p) (line : LogLine) :
    ∃ p', IsKept s events (lines ++ [line]) (t.step (.emit (.log line))) p' := by
  obtain ⟨_, metrics, logs⟩ := t
  obtain rfl := h.pipeline
  have hlines := h.lines
  cases hlogs : p.logs with
  | none =>
    have hreport : s.reportLogs = false := by rw [← h.logs, hlogs]; rfl
    have hstep : step ⟨⟨some p⟩, metrics, logs⟩ (.emit (.log line))
        = ⟨⟨some p⟩, metrics, logs⟩ := by
      simp [step, Sink.emit, Sink.waitingLines?, Pipeline.addLog_of_none hlogs, hlogs]
    rw [hstep]
    rw [hreport] at hlines
    refine ⟨p, rfl, h.isOpen, h.capacity, h.logs, h.metrics, ?_, h.dropped⟩
    rw [hreport]
    exact hlines
  | some q =>
    have hreport : s.reportLogs = true := by rw [← h.logs, hlogs]; rfl
    rw [hreport, if_pos rfl, hlogs] at hlines
    by_cases hfull : q.items.length = p.capacity
    · have hadd := Pipeline.addLog_of_full h.isOpen hlogs hfull line
      have hstep : step ⟨⟨some p⟩, metrics, logs⟩ (.emit (.log line))
          = ⟨⟨some { p with dropped := p.dropped + 1 }⟩, metrics, logs.offer line true⟩ := by
        simp [step, Sink.emit, Sink.dropped, Sink.waitingLines?, hadd, hlogs]
      have hdropped : p.dropped = metrics.dropped.length + logs.dropped.length := h.dropped
      rw [hstep]
      refine ⟨_, rfl, h.isOpen, h.capacity, h.logs, h.metrics, ?_, ?_⟩
      · dsimp only
        rw [hreport, if_pos rfl, hlogs]
        exact hlines.drop line
      · simp only [Flow.offer, if_true, List.length_append, List.length_singleton]
        omega
    · obtain ⟨q', hq', hadd⟩ := Pipeline.exists_addLog_of_ne h.isOpen hlogs hfull line
      have hstep : step ⟨⟨some p⟩, metrics, logs⟩ (.emit (.log line))
          = ⟨⟨some { p with logs := some q' }⟩, metrics, logs.offer line false⟩ := by
        simp [step, Sink.emit, Sink.dropped, Sink.waitingLines?, hadd, hlogs]
      rw [hstep]
      refine ⟨_, rfl, h.isOpen, h.capacity, hreport.symm, h.metrics, ?_, h.dropped⟩
      have haccept := hlines.accept line
      dsimp only [Option.map_some, Option.getD_some] at haccept ⊢
      rw [hreport, if_pos rfl, hq']
      exact haccept

theorem IsKept.takeMetrics (h : IsKept s events lines t p) (count : Nat) :
    ∃ p', IsKept s events lines (t.step (.takeMetrics count)) p' := by
  obtain ⟨_, metrics, logs⟩ := t
  obtain rfl := h.pipeline
  exact ⟨(p.takeMetrics count).2, rfl, h.isOpen, h.capacity, h.logs, h.metrics.take count, h.lines,
    h.dropped⟩

theorem IsKept.takeLogs (h : IsKept s events lines t p) (count : Nat) :
    ∃ p', IsKept s events lines (t.step (.takeLogs count)) p' := by
  obtain ⟨_, metrics, logs⟩ := t
  obtain rfl := h.pipeline
  have hlines := h.lines
  cases hlogs : p.logs with
  | none =>
    have hstep : step ⟨⟨some p⟩, metrics, logs⟩ (.takeLogs count)
        = ⟨⟨some p⟩, metrics, logs.take []⟩ := by
      simp [step, Sink.takeLogs, Pipeline.takeLogs, hlogs]
    rw [hstep]
    refine ⟨p, rfl, h.isOpen, h.capacity, h.logs, h.metrics, ?_, h.dropped⟩
    rw [hlogs] at hlines ⊢
    exact hlines.take 0
  | some q =>
    have hstep : step ⟨⟨some p⟩, metrics, logs⟩ (.takeLogs count)
        = ⟨⟨some { p with logs := some (q.take count).2 }⟩, metrics,
            logs.take (q.items.take count)⟩ := by
      simp [step, Sink.takeLogs, Pipeline.takeLogs, hlogs, Queue.take]
    rw [hstep]
    refine ⟨_, rfl, h.isOpen, h.capacity, ?_, h.metrics, ?_, h.dropped⟩
    · rw [← h.logs, hlogs]
      rfl
    · rw [hlogs] at hlines
      exact hlines.take count

/-- **Every step keeps the account.** -/
theorem IsKept.step (h : IsKept s events lines t p) (a : SinkStep α) :
    ∃ p', IsKept s (events ++ emittedMetrics [a]) (lines ++ emittedLines [a]) (t.step a) p' := by
  cases a with
  | emit e =>
    cases e with
    | metric e => simpa [emittedMetrics, emittedLines] using h.emit_metric e
    | log line => simpa [emittedMetrics, emittedLines] using h.emit_log line
  | takeMetrics count => simpa [emittedMetrics, emittedLines] using h.takeMetrics count
  | takeLogs count => simpa [emittedMetrics, emittedLines] using h.takeLogs count

/-- **So does every sequence of steps.** -/
theorem IsKept.after (h : IsKept s events lines t p) (l : List (SinkStep α)) :
    ∃ p', IsKept s (events ++ emittedMetrics l) (lines ++ emittedLines l) (t.after l) p' := by
  induction l generalizing events lines t p with
  | nil => exact ⟨p, by simpa [emittedMetrics, emittedLines, Traffic.after] using h⟩
  | cons a l ih =>
    obtain ⟨p₁, h₁⟩ := h.step a
    obtain ⟨p₂, h₂⟩ := ih h₁
    refine ⟨p₂, ?_⟩
    have hmetrics : emittedMetrics (a :: l) = emittedMetrics [a] ++ emittedMetrics l :=
      List.filterMap_append (l := [a])
    have hlines : emittedLines (a :: l) = emittedLines [a] ++ emittedLines l :=
      List.filterMap_append (l := [a])
    rw [hmetrics, hlines, ← List.append_assoc, ← List.append_assoc]
    exact h₂

/-! ### What can be seen of it -/

/-- **What an emission does to its queue**: it waits behind the others, or it is dropped, and
that exactly if the queue is full. -/
structure Admits {β : Type} (capacity : Nat) (x : β) (waiting waiting' : List β)
    (dropped dropped' : Nat) : Prop where
  room : waiting.length ≠ capacity → waiting' = waiting ++ [x] ∧ dropped' = dropped
  full : waiting.length = capacity → waiting' = waiting ∧ dropped' = dropped + 1

/-- **Nothing is lost silently**, given the size of the queues, whether log lines are reported,
and the steps so far. -/
structure IsLossless (capacity : Nat) (reportLogs : Bool) (l : List (SinkStep α))
    (t : Traffic α) : Prop where
  /-- There is a queue for log lines exactly if they are reported. -/
  reported : t.sink.waitingLines?.isSome = reportLogs
  metrics_le : t.sink.waitingMetrics.length ≤ capacity
  lines_le : ∀ waiting, t.sink.waitingLines? = some waiting → waiting.length ≤ capacity
  metrics : t.metrics.Balances (emittedMetrics l) t.sink.waitingMetrics
  lines : t.lines.Balances (if reportLogs then emittedLines l else [])
    (t.sink.waitingLines?.getD [])
  /-- What was emitted to a queue was taken, waits or was dropped. -/
  total : (emittedMetrics l).length + (if reportLogs then (emittedLines l).length else 0)
    = (t.metrics.taken.length + t.lines.taken.length)
      + (t.sink.waitingMetrics.length + (t.sink.waitingLines?.getD []).length) + t.sink.dropped
  emit_metric : ∀ e,
    Admits capacity e t.sink.waitingMetrics (t.sink.emit (.metric e)).waitingMetrics
        t.sink.dropped (t.sink.emit (.metric e)).dropped
      ∧ (t.sink.emit (.metric e)).waitingLines? = t.sink.waitingLines?
  emit_line : ∀ line waiting, t.sink.waitingLines? = some waiting →
    ∃ waiting', (t.sink.emit (.log line)).waitingLines? = some waiting'
      ∧ Admits capacity line waiting waiting' t.sink.dropped (t.sink.emit (.log line)).dropped
      ∧ (t.sink.emit (.log line)).waitingMetrics = t.sink.waitingMetrics
  take_metrics : ∀ count, (t.sink.takeMetrics count).1 = t.sink.waitingMetrics.take count
  take_lines : ∀ count, (t.sink.takeLogs count).1 = (t.sink.waitingLines?.getD []).take count
  /-- Without a queue for log lines these make no difference at all. -/
  unreported : reportLogs = false → ∀ line, t.sink.emit (.log line) = t.sink

theorem IsKept.admits_metric (h : IsKept s events lines t p) (e : MetricEvent α) :
    Admits (max s.queueCapacity 1) e t.sink.waitingMetrics
        (t.sink.emit (.metric e)).waitingMetrics t.sink.dropped (t.sink.emit (.metric e)).dropped
      ∧ (t.sink.emit (.metric e)).waitingLines? = t.sink.waitingLines? := by
  rw [h.pipeline, ← h.capacity, Sink.emit_metric]
  by_cases hfull : p.metrics.items.length = p.capacity
  · rw [Pipeline.addMetric_of_full h.isOpen hfull]
    exact ⟨⟨fun hroom => absurd hfull hroom, fun _ => ⟨rfl, rfl⟩⟩, rfl⟩
  · obtain ⟨q, hq, hadd⟩ := Pipeline.exists_addMetric_of_ne h.isOpen hfull e
    rw [hadd]
    exact ⟨⟨fun _ => ⟨hq, rfl⟩, fun h => absurd h hfull⟩, rfl⟩

theorem IsKept.admits_line (h : IsKept s events lines t p) (line : LogLine)
    {waiting : List LogLine} (hwaiting : t.sink.waitingLines? = some waiting) :
    ∃ waiting', (t.sink.emit (.log line)).waitingLines? = some waiting'
      ∧ Admits (max s.queueCapacity 1) line waiting waiting' t.sink.dropped
        (t.sink.emit (.log line)).dropped
      ∧ (t.sink.emit (.log line)).waitingMetrics = t.sink.waitingMetrics := by
  rw [h.pipeline] at hwaiting
  obtain ⟨q, hlogs, rfl⟩ : ∃ q, p.logs = some q ∧ q.items = waiting :=
    Option.map_eq_some_iff.1 hwaiting
  rw [h.pipeline, ← h.capacity, Sink.emit_log]
  by_cases hfull : q.items.length = p.capacity
  · rw [Pipeline.addLog_of_full h.isOpen hlogs hfull]
    exact ⟨q.items, hwaiting, ⟨fun hroom => absurd hfull hroom, fun _ => ⟨rfl, rfl⟩⟩, rfl⟩
  · obtain ⟨q', hq', hadd⟩ := Pipeline.exists_addLog_of_ne h.isOpen hlogs hfull line
    rw [hadd]
    exact ⟨q'.items, rfl, ⟨fun _ => ⟨hq', rfl⟩, fun h => absurd h hfull⟩, rfl⟩

/-- An account that is kept shows that nothing was lost. -/
theorem IsKept.isLossless {l : List (SinkStep α)}
    (h : IsKept s (emittedMetrics l) (emittedLines l) t p) :
    IsLossless (max s.queueCapacity 1) s.reportLogs l t := by
  have hmetrics : t.sink.waitingMetrics = p.metrics.items := by rw [h.pipeline]; rfl
  have hlines : t.sink.waitingLines? = p.logs.map (·.items) := by rw [h.pipeline]; rfl
  have hdropped : t.sink.dropped = p.dropped := by rw [h.pipeline]; rfl
  exact {
    reported := by
      rw [hlines, Option.isSome_map]
      exact h.logs
    metrics_le := by
      rw [hmetrics, ← h.capacity]
      exact p.metrics.bounded
    lines_le := by
      intro waiting hwaiting
      rw [hlines] at hwaiting
      obtain ⟨q, -, rfl⟩ := Option.map_eq_some_iff.1 hwaiting
      rw [← h.capacity]
      exact q.bounded
    metrics := hmetrics ▸ h.metrics
    lines := hlines ▸ h.lines
    total := by
      have hlength := h.lines.length_eq
      rw [apply_ite List.length, List.length_nil] at hlength
      rw [hlength, h.metrics.length_eq, hmetrics, hlines, hdropped, h.dropped]
      omega
    emit_metric := h.admits_metric
    emit_line := fun line _ => h.admits_line line
    take_metrics := fun count => by rw [h.pipeline]; rfl
    take_lines := fun count => by
      rw [h.pipeline]
      cases hlogs : p.logs <;>
        simp [Sink.takeLogs, Sink.waitingLines?, Pipeline.takeLogs, hlogs, Queue.take]
    unreported := by
      intro hreport line
      have hlogs : p.logs = none := by
        rw [← h.logs] at hreport
        simpa using hreport
      rw [h.pipeline, Sink.emit_log, Pipeline.addLog_of_none hlogs] }

/-- A disabled sink stays as it is. -/
theorem after_disabled (l : List (SinkStep α)) :
    (start Sink.disabled : Traffic α).after l = start Sink.disabled := by
  induction l with
  | nil => rfl
  | cons a l ih =>
    have hstep : (start Sink.disabled : Traffic α).step a = start Sink.disabled := by
      cases a with
      | emit e => cases e <;> rfl
      | takeMetrics count => rfl
      | takeLogs count => rfl
    rw [after, List.foldl_cons, hstep]
    exact ih

/-- **Nothing that is emitted is lost silently** while somebody takes from the queues, in
whatever order emissions and takings come and whatever the settings are; and of a sink that is
disabled nothing comes and nothing is counted. -/
theorem isLossless_after (s : MetricsSettings) (l : List (SinkStep α)) :
    IsLossless (max s.queueCapacity 1) s.reportLogs l ((start (.ofSettings s)).after l)
      ∧ (start Sink.disabled : Traffic α).after l = start Sink.disabled
      ∧ (Sink.disabled : Sink α).dropped = 0 := by
  obtain ⟨p, h⟩ := (isKept_start s).after l
  exact ⟨h.isLossless, after_disabled l, rfl⟩

end Traffic

end Courier
