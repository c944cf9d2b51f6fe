import Admission.Session

/-!
# Upkeep

A session shows one reclaimer or none.  Behind it stand tasks: every reclaimer that was started
has a loop of its own, which goes on until something ends it.  The loop waits for two things at
once, its ticker and a flag that the handle may raise; it holds no reference to the store but
while it passes over it.

* `Watched` — the flag, as a loop sees it;
* `Shared` — a store behind counted references, freed with the last of them;
* `Loop.attend` — what a loop does in a stretch of time, until it waits or ends;
* `Upkeep.step`, `Upkeep.run` — what a command does to the store, the loops and the handle;
* `Upkeep.session` — what of this a session shows.
-/

namespace Admission

/-- The watching end of a flag: what the flag is, whether that was sent since the last look, and
whether the sending end is gone. -/
structure Watched where
  flag : Bool
  unseen : Bool
  closed : Bool

namespace Watched

/-- A flag that is down, with nothing sent yet. -/
def silent : Watched :=
  ⟨false, false, false⟩

/-- What a flag is to be is sent. -/
def send (w : Watched) (flag : Bool) : Watched :=
  { w with flag := flag, unseen := true }

/-- The sending end goes away. -/
def close (w : Watched) : Watched :=
  { w with closed := true }

/-- What was sent is looked at. -/
def look (w : Watched) : Watched :=
  { w with unseen := false }

/-- Whether waiting for a change is over. -/
def changed (w : Watched) : Bool :=
  w.unseen || w.closed

/-- Whether a change is a reason to stop: nothing was sent, so nobody is left to send, or the flag
is up. -/
def stops (w : Watched) : Bool :=
  !w.unseen || w.flag

end Watched

/-- A store behind references: one that holds it, and so many others; or freed. -/
inductive Shared where
  | live (store : Store) (others : Nat)
  | freed

namespace Shared

/-- How many references hold the store. -/
def holders : Shared → Nat
  | live _ others => others + 1
  | freed => 0

/-- The store, while something holds it. -/
def store? : Shared → Option Store
  | live store _ => some store
  | freed => none

/-- A weak reference becomes one that holds the store, if there still is one. -/
def upgrade? : Shared → Option (Store × Shared)
  | live store others => some (store, live store (others + 1))
  | freed => none

/-- A reference is let go of; with the last one goes the store. -/
def release : Shared → Shared
  | live store (others + 1) => live store others
  | live _ 0 => freed
  | freed => freed

/-- The store becomes another one in its place. -/
def put (s : Shared) (store : Store) : Shared :=
  match s with
  | live _ others => live store others
  | freed => freed

/-- A pass by somebody with a weak reference: the store is held for the pass and no longer. -/
def pass? (s : Shared) (clock : Instant) : Option (Shared × List Event) :=
  match s.upgrade? with
  | none => none
  | some (store, held) =>
    let (_, store, events) := store.reclaim clock
    some ((held.put store).release, events)

end Shared

/-- The loop of a reclaimer: its ticker, the flag it watches, and whether it has ended. -/
structure Loop where
  ticker : Ticker
  signal : Watched
  ended : Bool

namespace Loop

/-- What a loop did: what became of it and of the store, the moments of its passes, and what it
logged. -/
structure Attended where
  loop : Loop
  shared : Shared
  moments : List Nat
  events : List Event

/-- What a loop does between the moment at which it gets a turn and a later one, until it waits or
ends.  When a tick and a change are there at the same time, it is not fixed which of them comes
first: `favours` says whether it is the tick. -/
def attend (favours : Loop → Bool) (opens target : Nat) (clock : Instant) (l : Loop)
    (shared : Shared) : Attended :=
  if l.ended then ⟨l, shared, [], []⟩
  else if l.signal.changed ∧ (opens < l.ticker.due ∨ favours l = false) then
    if l.signal.stops then ⟨{ l with ended := true }, shared, [], []⟩
    else attend favours opens target clock { l with signal := l.signal.look } shared
  else if l.ticker.due ≤ target then
    match shared.pass? clock with
    | none => ⟨{ l with ended := true }, shared, [], [.reclaimerOrphaned]⟩
    | some (shared, events) =>
      let moment := max opens l.ticker.due
      let rest :=
        attend favours opens target clock { l with ticker := l.ticker.fire moment } shared
      ⟨rest.loop, rest.shared, moment :: rest.moments, events ++ rest.events⟩
  else ⟨l, shared, [], []⟩
termination_by (target + 1 - l.ticker.due, l.signal.unseen.toNat)
decreasing_by
  · -- What stops nobody was sent, and is seen from now on.
    rename_i goes_on
    refine Prod.Lex.right _ ?_
    cases hunseen : l.signal.unseen with
    | true => exact Nat.zero_lt_one
    | false => simp [Watched.stops, hunseen] at goes_on
  · have due_le : l.ticker.due ≤ target := by assumption
    refine Prod.Lex.left _ _ ?_
    exact Nat.sub_lt_sub_left (Nat.lt_succ_of_le due_le)
      (l.ticker.due_lt_due_fire (max opens l.ticker.due))

end Loop

/-- A pass over the store: which loop made it, and when. -/
structure Pass where
  loop : Nat
  moment : Nat

namespace Upkeep

/-- What loops did: what became of them and of the store, their passes, and what they logged. -/
structure Attended where
  loops : List Loop
  shared : Shared
  passes : List Pass
  events : List Event

/-- What loops, numbered from some number on, do one after another. -/
def attendAll (favours : Nat → Loop → Bool) (opens target : Nat) (clock : Instant) :
    Nat → List Loop → Shared → Attended
  | _, [], shared => ⟨[], shared, [], []⟩
  | i, l :: rest, shared =>
    let first := l.attend (favours i) opens target clock shared
    let others := attendAll favours opens target clock (i + 1) rest first.shared
    ⟨first.loop :: others.loops, others.shared,
      first.moments.map (fun moment => ⟨i, moment⟩) ++ others.passes,
      first.events ++ others.events⟩

end Upkeep

/-- A clock, virtual time in nanoseconds, whether the session still holds the store, the store
itself, every loop that was started, the one that the handle is of, and the passes so far. -/
structure Upkeep where
  clock : Instant
  elapsed : Nat
  owned : Bool
  shared : Shared
  loops : List Loop
  handle : Option Nat
  passes : List Pass

namespace Upkeep

/-- An empty store that the session holds, and no loop. -/
def opening (limits : Limits) (now : Instant) : Upkeep :=
  ⟨now, 0, true, .live (.empty limits) 0, [], none, []⟩

/-- What a session shows: the store it holds, and the reclaimer it has a handle of. -/
def session (u : Upkeep) : Session where
  clock := u.clock
  store := if u.owned then u.shared.store? else none
  elapsed := u.elapsed
  reclaimer := u.handle.bind fun i => u.loops[i]?.map fun l => ⟨l.ticker, l.ended⟩

/-- The moment at which loops get their first turn while time passes: at once when it runs, at
the end of a jump. -/
def opens (now target : Nat) : Passage → Nat
  | .running => now
  | .jumping => target

/-- Time comes to a moment, and the loops do what they do until then. -/
def attend (favours : Nat → Loop → Bool) (opens target : Nat) (u : Upkeep) : Upkeep × Attended :=
  let after := attendAll favours opens target u.clock 0 u.loops u.shared
  ({ u with
      elapsed := target
      shared := after.shared
      loops := after.loops
      passes := u.passes ++ after.passes },
    after)

/-- The handle goes away, and with it the sending end of the flag. -/
def hangUp (u : Upkeep) (i : Nat) : Upkeep :=
  { u with
    loops := u.loops.modify i fun l => { l with signal := l.signal.close }
    handle := none }

/-- The handle is dropped, which aborts its loop: it gets no turn any more. -/
def abandon (u : Upkeep) : Upkeep :=
  match u.handle with
  | none => u
  | some i => { u with loops := u.loops.modify i fun l => { l with ended := true } }.hangUp i

/-- The handle is used up: the flag is raised, and the loops have their turns until the one that
watches it is done. -/
def shutDown (favours : Nat → Loop → Bool) (u : Upkeep) : Upkeep × Answer × List Event :=
  match u.handle with
  | none => (u, .stopped false, [])
  | some i =>
    let told := { u with
      loops := u.loops.modify i fun l => { l with signal := l.signal.send true } }
    let (u, attended) := told.attend favours u.elapsed u.elapsed
    (u.hangUp i, .stopped true, attended.events ++ [.reclaimerStopped])

/-- A reclaimer is started, if that is possible, and takes the place of the one before it. -/
def spawn (u : Upkeep) (interval : Duration) : Upkeep × Answer × List Event :=
  match u.session.store with
  | none => (u, .noStore, [])
  | some store =>
    match Reclaimer.spawn store.limits interval u.elapsed with
    | .error e => (u, .spawned (.error e), [])
    | .ok r =>
      let started := { u.abandon with
        loops := u.abandon.loops ++ [⟨r.ticker, .silent, false⟩]
        handle := some u.abandon.loops.length }
      (started, .spawned (.ok r.interval), [.reclaimerStarted r.interval])

/-- A command that is the business of the clock or the store alone, or that only asks. -/
def consult (u : Upkeep) (command : Command) : Upkeep × Answer × List Event :=
  let (s, answer, events) := u.session.step command
  ({ u with clock := s.clock, shared := s.store.elim u.shared u.shared.put }, answer, events)

/-- What a command does, what is answered, and what is logged. -/
def step (favours : Nat → Loop → Bool) (u : Upkeep) : Command → Upkeep × Answer × List Event
  | .spawn interval => u.spawn interval
  | .elapse passage length =>
    let target := u.elapsed + length.nanoseconds
    let (u, attended) := u.attend favours (opens u.elapsed target passage) target
    (u, .passes attended.passes.length, attended.events)
  | .shutdown => u.shutDown favours
  | .dropReclaimer => (u.abandon, .dropped u.handle.isSome, [])
  | .dropStore =>
    ({ u with owned := false, shared := if u.owned then u.shared.release else u.shared },
      .dropped u.owned, [])
  | command => u.consult command

/-- The answers to a list of commands, and what they lead to. -/
def run (favours : Nat → Loop → Bool) (u : Upkeep) : List Command → Upkeep × List Answer
  | [] => (u, [])
  | command :: rest =>
    let (u, answer, _) := u.step favours command
    let (u, answers) := u.run favours rest
    (u, answer :: answers)

end Upkeep
end Admission
