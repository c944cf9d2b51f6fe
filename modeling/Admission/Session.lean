import Admission.Reclaimer

/-!
# Sessions

A session is a store, the clock it reads, virtual time, and a reclaimer, driven by commands.  A
command that needs a store after the store has been dropped has no answer but that.

* `Session.step` — what a command does, what it answers, and what it logs;
* `Session.run` — the answers to a list of commands.
-/

namespace Admission

/-- What a session can be told. -/
inductive Command where
  | setClock (now : Instant)
  | advanceClock (nanoseconds : Int)
  | allow (id : String)
  | allowMany (id : String) (count : Nat)
  | reclaim
  | contains (id : String)
  | isEmpty
  | clear
  | visitor (id : String)
  | spawn (interval : Duration)
  | elapse (passage : Passage) (length : Duration)
  | isFinished
  | interval
  | shutdown
  | dropReclaimer
  | dropStore

/-- The state of a visitor as a session shows it. -/
structure VisitorView where
  lastSeen : Instant
  rate : Binary64
  burst : UInt32
  tokens : Binary64
  next : Option Duration

/-- What a session answers. -/
inductive Answer where
  | clock (now : Instant)
  | clockOverflow
  | noStore
  | decision (result : Except StoreError Bool)
  | admitted (count : Nat)
  | removed (count : Nat)
  | contains (found : Bool)
  | isEmpty (empty : Bool)
  | cleared
  | visitor (view : Option VisitorView)
  | spawned (result : Except ConfigError Duration)
  | passes (count : Nat)
  | finished (state : Option Bool)
  | interval (period : Option Duration)
  | stopped (wasRunning : Bool)
  | dropped (wasThere : Bool)

/-- A store, its clock, virtual time in nanoseconds, and a reclaimer. -/
structure Session where
  clock : Instant
  store : Option Store
  elapsed : Nat
  reclaimer : Option Reclaimer

/-- The wording of a clock that left the calendar. -/
def clockOverflowMessage : String :=
  "`DateTime + TimeDelta` overflowed"

/-- The wording of a command that came after its store was dropped. -/
def noStoreMessage : String :=
  "the store was dropped"

namespace Session

/-- A session over an empty store. -/
def start (limits : Limits) (now : Instant) : Session :=
  ⟨now, some (.empty limits), 0, none⟩

/-- How many identifiers the store tracks, if there is one. -/
def size? (s : Session) : Option Nat :=
  s.store.map Store.size

/-- What a visitor looks like now. -/
def view (v : Visitor) (now : Instant) : VisitorView :=
  ⟨v.lastSeen, v.bucket.allowance.rate, v.bucket.allowance.burst, v.bucket.tokensAt now,
    v.bucket.nextAvailable now⟩

/-- What a command to the store does. -/
def stepStore (s : Session) (store : Store) : Command → Session × Answer × List Event
  | .allow id =>
    let reply := store.allow id s.clock
    ({ s with store := some reply.state }, .decision reply.answer, reply.events)
  | .allowMany id count =>
    let (admitted, store) := store.allowMany id s.clock count
    ({ s with store := some store }, .admitted admitted, [])
  | .reclaim =>
    let (removed, store, events) := store.reclaim s.clock
    ({ s with store := some store }, .removed removed, events)
  | .contains id => (s, .contains (store.contains id), [])
  | .isEmpty => (s, .isEmpty (store.size == 0), [])
  | .clear => ({ s with store := some store.clear }, .cleared, [])
  | .visitor id => (s, .visitor ((store.visitor? id).map fun v => view v s.clock), [])
  | .spawn interval =>
    match Reclaimer.spawn store.limits interval s.elapsed with
    | .ok r =>
      ({ s with reclaimer := some r }, .spawned (.ok r.interval),
        [.reclaimerStarted r.interval])
    | .error e => (s, .spawned (.error e), [])
  | _ => (s, .noStore, [])

/-- What passing time does. -/
def elapse (s : Session) (passage : Passage) (length : Duration) :
    Session × Answer × List Event :=
  let target := s.elapsed + length.nanoseconds
  match s.reclaimer with
  | none => ({ s with elapsed := target }, .passes 0, [])
  | some r =>
    let passed := r.pass passage target s.clock s.store
    ({ s with elapsed := target, store := passed.store, reclaimer := some passed.reclaimer },
      .passes passed.passes, passed.events)

/-- What a command does to a session, what it answers, and what it logs. -/
def step (s : Session) : Command → Session × Answer × List Event
  | .setClock now => ({ s with clock := now }, .clock now, [])
  | .advanceClock nanoseconds =>
    match s.clock.advance? nanoseconds with
    | some now => ({ s with clock := now }, .clock now, [])
    | none => (s, .clockOverflow, [])
  | .elapse passage length => s.elapse passage length
  | .isFinished => (s, .finished (s.reclaimer.map Reclaimer.finished), [])
  | .interval => (s, .interval (s.reclaimer.map Reclaimer.interval), [])
  | .shutdown =>
    match s.reclaimer with
    | some _ => ({ s with reclaimer := none }, .stopped true, [.reclaimerStopped])
    | none => (s, .stopped false, [])
  | .dropReclaimer => ({ s with reclaimer := none }, .dropped s.reclaimer.isSome, [])
  | .dropStore => ({ s with store := none }, .dropped s.store.isSome, [])
  | command =>
    match s.store with
    | some store => s.stepStore store command
    | none => (s, .noStore, [])

/-- The answers to a list of commands, and the session after them. -/
def run (s : Session) : List Command → Session × List Answer
  | [] => (s, [])
  | command :: rest =>
    let (s, answer, _) := s.step command
    let (s, answers) := s.run rest
    (s, answer :: answers)

end Session
end Admission
