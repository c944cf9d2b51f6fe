import Admission.Store

/-!
# Crowds

Several callers use one store at the same time, each with one call at a time.  A call reads the
clock first and then goes through the sections of a decision: it looks its identifier up, checks
the cap, and enters the identifier.  A section is done at once; between two sections of a call
anything else may happen: sections of other calls, a pass or a clearing that comes to an
identifier, a clock that is set.

* `Crowd.proceed` — the next section of a caller's call;
* `Crowd.step`, `Crowd.run` — what one move does, and what moves lead to;
* `Crowd.opening` — an empty store, and callers none of whom has begun a call.
-/

namespace Admission

namespace Crowd

/-- A call: the identifier it is about, and what it read on the clock. -/
structure Call where
  id : String
  reading : Instant
deriving DecidableEq

/-- Where a caller is: between two calls, or before one of the sections of its call. -/
inductive Stage where
  | idle
  | looking (call : Call)
  | checking (call : Call)
  | entering (call : Call)
deriving DecidableEq

/-- A call that is over: who made it, the answer, and what it logged. -/
structure Decided where
  caller : Nat
  call : Call
  answer : Except StoreError Bool
  events : List Event

/-- What can happen next. -/
inductive Move where
  | setClock (now : Instant)
  | call (caller : Nat) (id : String)
  | proceed (caller : Nat)
  | startPass
  | visit (pass : Nat) (id : String)
  | forget (id : String)
  | clear

end Crowd

/-- A clock, a store, the callers, the readings of the passes that go over the store, and the
calls that are over, the last one first. -/
structure Crowd where
  clock : Instant
  store : Store
  callers : List Crowd.Stage
  passes : List Instant
  decided : List Crowd.Decided

namespace Crowd

/-- An empty store, and so many callers that are idle. -/
def opening (limits : Limits) (now : Instant) (callers : Nat) : Crowd :=
  ⟨now, .empty limits, List.replicate callers .idle, [], []⟩

/-- A caller comes to another stage. -/
def become (c : Crowd) (caller : Nat) (stage : Stage) : Crowd :=
  { c with callers := c.callers.set caller stage }

/-- A call is over: the reply holds, and the caller is idle again. -/
def settle (c : Crowd) (caller : Nat) (call : Call) (reply : Reply Store) : Crowd :=
  { c with
    store := reply.state
    callers := c.callers.set caller .idle
    decided := ⟨caller, call, reply.answer, reply.events⟩ :: c.decided }

/-- The next section of a caller's call, on the store as it stands. -/
def proceed (c : Crowd) (caller : Nat) : Crowd :=
  match c.callers[caller]? with
  | some (.looking call) =>
    match c.store.charge? call.id call.reading with
    | some (allowed, s) => c.settle caller call ⟨.ok allowed, s, [.limitChecked call.id allowed]⟩
    | none => c.become caller (.checking call)
  | some (.checking call) =>
    match c.store.refusal? with
    | some limit => c.settle caller call (c.store.turnedAway call.id limit)
    | none => c.become caller (.entering call)
  | some (.entering call) => c.settle caller call (c.store.enrolled call.id call.reading)
  | _ => c

/-- What a move does.  A call by somebody who is no idle caller, and a visit by a pass that was
not started, are no moves. -/
def step (c : Crowd) : Move → Crowd
  | .setClock now => { c with clock := now }
  | .call caller id =>
    match c.callers[caller]? with
    | some .idle => c.become caller (.looking ⟨id, c.clock⟩)
    | _ => c
  | .proceed caller => c.proceed caller
  | .startPass => { c with passes := c.passes ++ [c.clock] }
  | .visit pass id =>
    match c.passes[pass]? with
    | some reading => { c with store := c.store.visit id reading }
    | none => c
  | .forget id => { c with store := c.store.forget id }
  | .clear => { c with store := c.store.clear }

/-- What moves, one after another, lead to. -/
def run (c : Crowd) (moves : List Move) : Crowd :=
  moves.foldl step c

end Crowd
end Admission
