import Courier.Proofs.Hosts.TrackRecord
import Mathlib.Data.List.Basic
import Mathlib.Data.List.DropRight
import Mathlib.Data.List.ReduceOption

/-!
# What is remembered of a host

Passes over several lists may be under way at a time, and outcomes may be reported at any
moment. To a track record all this is a sequence of three kinds of events:

| event | what it does |
|---|---|
| `Event.report` | an outcome of one host is recorded |
| `Event.start` | a pass begins, and hosts that are not in its list are forgotten |
| `Event.finish` | a pass ends, with an outcome for each entry of its list |

A pass over one host has no end (`Courier.TrackRecord.pass_eq`). That the end of a pass
comes after its start, and with the same list, is not asked for: what follows holds of every
sequence.

What is remembered of a host is read off the events that concern it: the outcomes recorded
**since it was last forgotten** (`Courier.TrackRecord.history`), so that what was before does not
matter (`Courier.TrackRecord.history_append_start`). Its window is a fresh one that
took these outcomes (`Courier.TrackRecord.IsFaithful`), which every event keeps so. From this
follow the rates and the scores (`Courier.TrackRecord.failureRate?_eq_and_scores_eq`).
-/

namespace Courier

namespace TrackRecord

/-- What happens to a track record. -/
inductive Event where
  | report (host : String) (success : Bool)
  | start (hosts : List String)
  | finish (entries : List (String × Bool))

/-! ### What concerns a host -/

/-- What an event means to one host: outcomes, or `none` where the host is forgotten. -/
def Event.about (host : String) : Event → List (Option Bool)
  | .report other success => if other = host then [some success] else []
  | .start hosts => if host ∈ hosts then [] else [none]
  | .finish entries => (outcomesOf host entries).map some

/-- What events mean to one host. -/
def trace (host : String) (events : List Event) : List (Option Bool) :=
  events.flatMap (Event.about host)

theorem trace_append (host : String) (events events' : List Event) :
    trace host (events ++ events') = trace host events ++ trace host events' :=
  List.flatMap_append

/-- The outcomes behind the last `none`. -/
def outcomesSince (l : List (Option Bool)) : List Bool :=
  (l.rtakeWhile Option.isSome).reduceOption

/-- **The outcomes recorded for a host since it was last forgotten**, or ever. -/
def history (host : String) (events : List Event) : List Bool :=
  outcomesSince (trace host events)

theorem outcomesSince_concat_none (l : List (Option Bool)) : outcomesSince (l ++ [none]) = [] := by
  rw [outcomesSince, List.rtakeWhile_concat_neg _ _ _ (by simp)]
  rfl

theorem outcomesSince_concat_some (l : List (Option Bool)) (success : Bool) :
    outcomesSince (l ++ [some success]) = outcomesSince l ++ [success] := by
  rw [outcomesSince, List.rtakeWhile_concat_pos _ _ _ rfl, List.reduceOption_append]
  rfl

theorem outcomesSince_append_map_some (l : List (Option Bool)) (outcomes : List Bool) :
    outcomesSince (l ++ outcomes.map some) = outcomesSince l ++ outcomes := by
  induction outcomes using List.reverseRecOn with
  | nil => simp
  | append_singleton outcomes last ih =>
    rw [List.map_append, ← List.append_assoc, List.map_singleton, outcomesSince_concat_some, ih,
      List.append_assoc]

theorem outcomesSince_append_none_cons (l l' : List (Option Bool)) :
    outcomesSince (l ++ none :: l') = outcomesSince l' := by
  rw [List.append_cons]
  induction l' using List.reverseRecOn with
  | nil => exact (List.append_nil (l ++ [none])).symm ▸ outcomesSince_concat_none l
  | append_singleton l' last ih =>
    rw [← List.append_assoc]
    cases last with
    | none => rw [outcomesSince_concat_none, outcomesSince_concat_none]
    | some success => rw [outcomesSince_concat_some, outcomesSince_concat_some, ih]

theorem history_report (host other : String) (events : List Event) (success : Bool) :
    history host (events ++ [.report other success]) =
      if other = host then history host events ++ [success] else history host events := by
  have h := outcomesSince_concat_some (trace host events) success
  by_cases ho : other = host
  · simpa [history, trace_append, trace, Event.about, ho] using h
  · simp [history, trace, Event.about, ho]

/-- **A host that is forgotten starts anew**: what was before does not matter. -/
theorem history_append_start {host : String} {hosts : List String} (hnot : host ∉ hosts)
    (events events' : List Event) :
    history host (events ++ .start hosts :: events') = history host events' := by
  have hstart : trace host (.start hosts :: events') = none :: trace host events' := by
    simp [trace, Event.about, hnot]
  rw [history, trace_append, hstart, outcomesSince_append_none_cons, history]

example : history "a" [.report "a" false, .start ["b"], .report "a" true, .start ["a", "b"],
    .report "b" true, .finish [("a", false), ("b", true)]] = [true, false] := by decide

theorem history_start (host : String) (events : List Event) (hosts : List String) :
    history host (events ++ [.start hosts]) =
      if host ∈ hosts then history host events else [] := by
  by_cases hmem : host ∈ hosts
  · simp [history, trace, Event.about, hmem]
  · rw [if_neg hmem]
    exact history_append_start hmem events []

theorem history_finish (host : String) (events : List Event) (entries : List (String × Bool)) :
    history host (events ++ [.finish entries]) =
      history host events ++ outcomesOf host entries := by
  have h := outcomesSince_append_map_some (trace host events) (outcomesOf host entries)
  simpa [history, trace_append, trace, Event.about] using h

/-! ### What events leave -/

section Run

variable (α : Type) [Scalar α]

/-- What an event makes of a track record. -/
def step (t : TrackRecord) : Event → TrackRecord
  | .report host success => t.record host success
  | .start hosts => t.startPass hosts
  | .finish entries => (t.endPass (α := α) entries).1

/-- The track record that events leave. -/
def after (t : TrackRecord) (events : List Event) : TrackRecord := events.foldl (step α) t

/-- **A pass is a start, and an end** unless it is over one host. -/
theorem pass_eq (t : TrackRecord) (hosts : List String) (outcomes : List Bool) :
    t.pass (α := α) hosts outcomes =
      if hosts.length = 1 then (after α t [.start hosts], hosts.map fun h => ⟨h, Scalar.ofNat 0⟩)
      else (after α t [.start hosts, .finish (hosts.zip outcomes)],
        ((after α t [.start hosts]).endPass (hosts.zip outcomes)).2) := by
  by_cases hone : hosts.length = 1 <;> simp [pass, isRanked, after, step, hone]

variable {α} {size : Nat} {events : List Event} {t : TrackRecord}

/-- **The window of a host is a fresh one that took its history**, and a host without history
has none. -/
structure IsFaithful (size : Nat) (events : List Event) (t : TrackRecord) : Prop where
  size_eq : t.size = size
  get?_eq : ∀ host, t.windows.get? host =
    if history host events = [] then none
    else some ((Window.ofSize size).putAll (history host events))

theorem isFaithful_ofSize (size : Nat) : IsFaithful size [] (ofSize size) where
  size_eq := rfl
  get?_eq _ := rfl

/-- A host without history counts as one with an empty history. -/
theorem IsFaithful.window_eq (h : IsFaithful size events t) (host : String) :
    t.window host = (Window.ofSize size).putAll (history host events) := by
  rw [window, h.get?_eq, h.size_eq]
  by_cases hempty : history host events = []
  · rw [if_pos hempty, hempty]
    rfl
  · rw [if_neg hempty]
    rfl

/-- **An event keeps a track record faithful.** -/
theorem IsFaithful.step (h : IsFaithful size events t) (e : Event) :
    IsFaithful size (events ++ [e]) (TrackRecord.step α t e) where
  size_eq := by
    rw [← h.size_eq]
    cases e with
    | report other success => exact size_record t other success
    | start hosts => exact size_startPass t hosts
    | finish entries => exact size_endPass t entries
  get?_eq host := by
    cases e with
    | report other success =>
      rw [TrackRecord.step, get?_record, history_report]
      by_cases ho : host = other
      · subst ho
        rw [if_pos rfl, if_pos rfl, h.window_eq, if_neg (by simp), Window.putAll_append]
        rfl
      · rw [if_neg ho, if_neg (Ne.symm ho), h.get?_eq]
    | start hosts =>
      rw [TrackRecord.step, get?_startPass, history_start]
      by_cases hmem : host ∈ hosts
      · rw [if_pos hmem, if_pos hmem, h.get?_eq]
      · rw [if_neg hmem, if_neg hmem, if_pos rfl]
    | finish entries =>
      rw [TrackRecord.step, get?_endPass, history_finish]
      by_cases hnone : outcomesOf host entries = []
      · rw [if_pos hnone, hnone, List.append_nil, h.get?_eq]
      · rw [if_neg hnone, h.window_eq, if_neg (by simp [hnone]), Window.putAll_append]

/-- **Events keep a track record faithful.** -/
theorem IsFaithful.after (h : IsFaithful size events t) (events' : List Event) :
    IsFaithful size (events ++ events') (TrackRecord.after α t events') := by
  induction events' generalizing t events with
  | nil => simpa [TrackRecord.after] using h
  | cons e rest ih => simpa [TrackRecord.after] using ih (h.step (α := α) e)

/-! ### Rates and scores -/

variable (α)

/-- The share of failures among the last outcomes, as many as a window of a size has slots.
Outcomes that are not there yet count as successes. -/
def share (size : Nat) (outcomes : List Bool) : α :=
  Scalar.div (Scalar.ofNat ((outcomes.rtake (max size 1)).count false))
    (Scalar.ofNat (max size 1))

theorem failureRate_putAll_ofSize (size : Nat) (outcomes : List Bool) :
    ((Window.ofSize size).putAll outcomes).failureRate α = share α size outcomes := by
  rw [Window.failureRate, Window.failures_putAll_ofSize, Window.size_putAll,
    Window.size_ofSize, share]

theorem IsFaithful.failureRate?_eq (h : IsFaithful size events t) (host : String) :
    t.failureRate? α host =
      if history host events = [] then none else some (share α size (history host events)) := by
  rw [failureRate?, h.get?_eq]
  by_cases hempty : history host events = []
  · rw [if_pos hempty, if_pos hempty, Option.map_none]
  · rw [if_neg hempty, if_neg hempty, Option.map_some, failureRate_putAll_ofSize]

/-- **The end of a pass scores each entry by the outcomes up to its own.** -/
theorem IsFaithful.endPass_eq (h : IsFaithful size events t) (entries : List (String × Bool)) :
    (t.endPass (α := α) entries).2 = entries.mapIdx fun j e =>
      ⟨e.1, Scalar.sub (Scalar.ofNat 1)
        (share α size (history e.1 (events ++ [.finish (entries.take (j + 1))])))⟩ := by
  induction entries generalizing t events with
  | nil => rfl
  | cons e rest ih =>
    -- a report and an end of a pass over the rest mean to every host what the whole end does
    have hsplit (host : String) (l : List (String × Bool)) :
        history host (events ++ [.report e.1 e.2] ++ [.finish l]) =
          history host (events ++ [.finish (e :: l)]) := by
      rw [history_finish, history_finish, history_report, outcomesOf_cons]
      by_cases he : e.1 = host <;> simp [he]
    have hreport : IsFaithful size (events ++ [.report e.1 e.2]) (t.record e.1 e.2) :=
      h.step (α := α) (.report e.1 e.2)
    have hfirst : history e.1 (events ++ [.report e.1 e.2]) =
        history e.1 (events ++ [.finish [e]]) := by
      rw [history_report, history_finish, outcomesOf_cons, if_pos rfl, if_pos rfl]
      rfl
    rw [endPass_cons, ih hreport, List.mapIdx_cons, hreport.window_eq, Window.score,
      failureRate_putAll_ofSize, hfirst]
    simp only [hsplit, List.take_succ_cons, List.take_zero]

end Run

/-- **Rates and scores are those of the history**, whatever happened:

* a host without history has no rate, and else its rate is the share of failures among the last
  outcomes of its history;
* so events that mean the same to a host leave it with the same rate, and the outcomes of
  others do not matter;
* the end of a pass scores each entry of its list, in order, by one less the share in the
  history as it is when the outcome of this entry has been recorded;
* a pass over a list other than of one host is such a start and such an end, and one over
  one host is a start. -/
theorem failureRate?_eq_and_scores_eq (α : Type) [Scalar α] (size : Nat) (events : List Event) :
    (∀ host, (after α (ofSize size) events).failureRate? α host =
      if history host events = [] then none else some (share α size (history host events))) ∧
    (∀ host events', trace host events' = trace host events →
      (after α (ofSize size) events').failureRate? α host =
        (after α (ofSize size) events).failureRate? α host) ∧
    (∀ entries, ((after α (ofSize size) events).endPass (α := α) entries).2 =
      entries.mapIdx fun j e => ⟨e.1, Scalar.sub (Scalar.ofNat 1)
        (share α size (history e.1 (events ++ [.finish (entries.take (j + 1))])))⟩) ∧
    ∀ hosts outcomes, (after α (ofSize size) events).pass (α := α) hosts outcomes =
      if hosts.length = 1 then
        (after α (ofSize size) (events ++ [.start hosts]), hosts.map fun h => ⟨h, Scalar.ofNat 0⟩)
      else
        (after α (ofSize size) (events ++ [.start hosts, .finish (hosts.zip outcomes)]),
          ((after α (ofSize size) (events ++ [.start hosts])).endPass (hosts.zip outcomes)).2) := by
  have hfaithful (events : List Event) :
      IsFaithful size events (after α (ofSize size) events) :=
    (isFaithful_ofSize size).after (α := α) events
  refine ⟨(hfaithful events).failureRate?_eq α, fun host events' htrace => ?_,
    (hfaithful events).endPass_eq α, fun hosts outcomes => ?_⟩
  · rw [(hfaithful events').failureRate?_eq α, (hfaithful events).failureRate?_eq α, history,
      history, htrace]
  · simp only [pass_eq, after, List.foldl_append]

end TrackRecord

end Courier
