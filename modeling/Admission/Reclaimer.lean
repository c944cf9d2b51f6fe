import Admission.Store

/-!
# The reclaimer

A reclaimer drops stale visitors at regular intervals.  Its time is virtual: it starts at zero
and passes only when told to, either running, which stops at every tick on the way, or in one
jump, after which everything overdue fires.

* `Ticker.fire` — a tick that fires late by more than five milliseconds puts the next one a
  whole period off, any other keeps to the schedule;
* `Ticker.catchUp` — the ticks up to a moment; none that is due is left out;
* `Reclaimer.pass` — what the ticks do to the store; without a store the loop ends at its next
  tick.
-/

namespace Admission

/-- How virtual time passes. -/
inductive Passage where
  | running
  | jumping
deriving DecidableEq

/-- A timer that fires again and again: a period that is not zero, how late a tick may fire
without a change to the schedule, and when the next tick is due, in nanoseconds of virtual
time. -/
structure Ticker where
  period : Duration
  tolerance : Duration
  due : Nat
  period_pos : 0 < period.nanoseconds

namespace Ticker

/-- How late a tick may fire unless a timer says otherwise: five milliseconds. -/
def defaultTolerance : Duration :=
  ⟨5000000⟩

/-- A ticker that starts at a moment; its first tick is a period away. -/
def starting (period : Duration) (h : 0 < period.nanoseconds) (now : Nat) : Ticker :=
  ⟨period, defaultTolerance, now + period.nanoseconds, h⟩

/-- The ticker after the tick that is due has fired at a moment. -/
def fire (t : Ticker) (moment : Nat) : Ticker :=
  if t.due + t.tolerance.nanoseconds < moment then
    { t with due := moment + t.period.nanoseconds }
  else { t with due := t.due + t.period.nanoseconds }

/-- The next tick is due later than the one before it. -/
theorem due_lt_due_fire (t : Ticker) (moment : Nat) : t.due < (t.fire moment).due := by
  have h := t.period_pos
  unfold fire
  split
  · show t.due < moment + t.period.nanoseconds
    omega
  · show t.due < t.due + t.period.nanoseconds
    omega

/-- When a tick fires: on its due time when time runs, at the end of a jump. -/
def moment (t : Ticker) (passage : Passage) (target : Nat) : Nat :=
  match passage with
  | .running => t.due
  | .jumping => target

/-- The moments of the ticks that are due by `target`, and the ticker after them. -/
def catchUp (passage : Passage) (target : Nat) (t : Ticker) : List Nat × Ticker :=
  if t.due ≤ target then
    let rest := catchUp passage target (t.fire (t.moment passage target))
    (t.moment passage target :: rest.1, rest.2)
  else ([], t)
termination_by target + 1 - t.due
decreasing_by
  rename_i due_le
  exact Nat.sub_lt_sub_left (Nat.lt_succ_of_le due_le)
    (t.due_lt_due_fire (t.moment passage target))

end Ticker

/-- A reclaimer: its timer, and whether its loop has ended. -/
structure Reclaimer where
  ticker : Ticker
  finished : Bool

/-- What passing time did to a reclaimer and a store. -/
structure Passed where
  reclaimer : Reclaimer
  store : Option Store
  passes : Nat
  events : List Event

namespace Reclaimer

/-- The time between two passes. -/
def interval (r : Reclaimer) : Duration :=
  r.ticker.period

/-- The period that a request for an interval means: zero stands for the store's idle period. -/
def effectiveInterval (limits : Limits) (requested : Duration) : Duration :=
  if requested = .zero then limits.expiresIn else requested

/-- An effective interval is not zero. -/
theorem effectiveInterval_pos (limits : Limits) (requested : Duration) :
    0 < (effectiveInterval limits requested).nanoseconds := by
  unfold effectiveInterval
  split
  · exact limits.expires_pos
  · next h =>
    refine Nat.pos_of_ne_zero fun hz => h ?_
    cases requested with
    | mk n => simp_all [Duration.zero]

/-- A reclaimer for a store, unless its interval is too long to be scheduled. -/
def spawn (limits : Limits) (requested : Duration) (now : Nat) : Except ConfigError Reclaimer :=
  let interval := effectiveInterval limits requested
  if interval ≤ maxPeriod then
    .ok ⟨.starting interval (effectiveInterval_pos limits requested) now, false⟩
  else .error (.periodTooLong .reclaimInterval interval)

/-- So many passes over a store, all at one reading of the clock. -/
def passes (s : Store) (clock : Instant) : Nat → Store × List Event
  | 0 => (s, [])
  | n + 1 =>
    let (_, s, events) := s.reclaim clock
    let (s, more) := passes s clock n
    (s, events ++ more)

/-- What the ticks up to a moment do: each runs a pass over the store; without a store the first
of them ends the loop. -/
def pass (r : Reclaimer) (passage : Passage) (target : Nat) (clock : Instant)
    (store : Option Store) : Passed :=
  if r.finished then ⟨r, store, 0, []⟩
  else
    match store with
    | some s =>
      let (moments, ticker) := r.ticker.catchUp passage target
      let (s, events) := passes s clock moments.length
      ⟨⟨ticker, false⟩, some s, moments.length, events⟩
    | none =>
      if r.ticker.due ≤ target then ⟨⟨r.ticker, true⟩, none, 0, [.reclaimerOrphaned]⟩
      else ⟨r, none, 0, []⟩

end Reclaimer
end Admission
