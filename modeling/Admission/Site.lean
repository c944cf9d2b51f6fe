import Admission.Routes

/-!
# Sites

A site is several stores on one clock, and the doors through which requests come to them.  It is
driven by errands, and notes what its stores were asked, at which reading of the clock, and what
they answered.  How a door serves a request is left open: it may be layers around a service, or a
layer before the routes.

* `Site.ask` — a question to a store, which is noted;
* `Site.step`, `Site.run` — what errands do to a site, and what they report;
* `Site.enter`, `Site.visit` — the two kinds of doors.
-/

namespace Admission

/-- A question to a store: for whom, at which reading of the clock, and what the store said. -/
structure Inquiry where
  store : Nat
  id : String
  reading : Instant
  answer : Except StoreError Bool

/-- Stores on one clock, and what they have been asked, the last question first. -/
structure Site where
  clock : Instant
  stores : List Backend
  inquiries : List Inquiry

/-- What can be done at a site whose doors are of some kind.  A store may also be asked without a
door. -/
inductive Errand (δ : Type) where
  | setClock (now : Instant)
  | advanceClock (nanoseconds : Int)
  | reclaim (store : Nat)
  | count (store : Nat)
  | ask (store : Nat) (id : String)
  | request (door : δ) (r : Request)

/-- What an errand reports, where a request is answered with something of some kind. -/
inductive Report (α : Type) where
  | clock (now : Instant)
  | clockOverflow
  | reclaimed (removed : Option Nat) (size : Nat)
  | counted (size : Nat)
  | decision (answer : Except StoreError Bool)
  | answered (answer : α)

namespace Site

variable {δ α : Type}

/-- Stores that nobody has asked anything yet. -/
def opening (now : Instant) (stores : List Backend) : Site :=
  ⟨now, stores, []⟩

/-- The answer of one of the stores, which is noted. -/
def ask (store : Nat) (id : String) (s : Site) : Reply Site :=
  let reply := Backend.ask s.clock store id s.stores
  ⟨reply.answer,
    { s with
      stores := reply.state
      inquiries := ⟨store, id, s.clock, reply.answer⟩ :: s.inquiries },
    reply.events⟩

/-- How many identifiers a store tracks; one that keeps no buckets tracks nobody. -/
def size (s : Site) (store : Nat) : Nat :=
  match s.stores[store]? with
  | some (.memory kept) => kept.size
  | _ => 0

/-- Drops the visitors of a store that were idle too long, and counts them if it keeps any. -/
def reclaim (s : Site) (store : Nat) : Option Nat × Site :=
  match s.stores[store]? with
  | some (.memory kept) =>
    let (removed, left, _) := kept.reclaim s.clock
    (some removed, { s with stores := s.stores.set store (.memory left) })
  | _ => (none, s)

/-- What an errand does, and what it reports. -/
def step (serve : Site → δ → Request → Site × α) (s : Site) : Errand δ → Site × Report α
  | .setClock now => ({ s with clock := now }, .clock now)
  | .advanceClock nanoseconds =>
    match s.clock.advance? nanoseconds with
    | some now => ({ s with clock := now }, .clock now)
    | none => (s, .clockOverflow)
  | .reclaim store =>
    let (removed, s) := s.reclaim store
    (s, .reclaimed removed (s.size store))
  | .count store => (s, .counted (s.size store))
  | .ask store id =>
    let reply := s.ask store id
    (reply.state, .decision reply.answer)
  | .request door r =>
    let (s, answer) := serve s door r
    (s, .answered answer)

/-- What errands do one after another, and what they report. -/
def run (serve : Site → δ → Request → Site × α) (s : Site) : List (Errand δ) →
    Site × List (Report α)
  | [] => (s, [])
  | errand :: rest =>
    let (s, report) := s.step serve errand
    let (s, reports) := run serve s rest
    (s, report :: reports)

/-- A request comes to layers around a service. -/
def enter (s : Site) (layers : List Layer) (service : Service) (r : Request) :
    Site × Outcome Site :=
  let outcome := Stack.call layers ask service r s
  (outcome.state, outcome)

/-- A request comes to a layer before the routes. -/
def visit (s : Site) (l : Layer) (r : Request) : Site × Evaluation Site × Response :=
  let (evaluation, response) := Routes.call l ask r s
  (evaluation.state, evaluation, response)

end Site
end Admission
