import Admission.Layer

/-!
# Readiness

A service must be found ready before it is called, and a call uses its readiness up.  A copy of a
service is a new instance, which nobody has found ready.  A layer that is asked asks the service
behind it.  A layer that is called hands that service, the one that was found ready, to the
request and keeps a copy of it for the next one.  The request is decided at a moment of its own,
and until then others come and go.

* `Assembly.poll`, `Assembly.copy`, `Assembly.call` — what a service behind layers does when it is
  asked, copied and called;
* `Journey.advance` — how a request gets one layer further in, or is rejected;
* `Occurrence.isReady` — whether an instance is ready, in view of what has happened;
* `Traffic.step`, `Traffic.run` — what a move does, and what moves lead to;
* `Traffic.heeds` — whether the caller calls only when it was told that it may.
-/

namespace Admission

/-- What a service says when it is asked whether it is ready. -/
inductive Readiness where
  | ready
  | pending
  | failed (cause : String)
deriving DecidableEq

/-- A request, and the number of the call that it came with. -/
structure Parcel where
  number : Nat
  request : Request

/-- What happens: an instance is asked, copied or called, or the service as a whole is called. -/
inductive Occurrence where
  | polled (number : Nat) (answer : Readiness)
  | copied (number copy : Nat)
  | accepted (parcel : Parcel)
  | called (number : Nat) (parcel : Parcel)

/-- Whether an instance is ready, in view of what has happened, the last first: it said so when it
was last asked, and was not called since.  A new instance is not. -/
def Occurrence.isReady (n : Nat) : List Occurrence → Bool
  | [] => false
  | .polled m answer :: past => if m = n then decide (answer = .ready) else isReady n past
  | .copied _ copy :: past => if copy = n then false else isReady n past
  | .accepted _ :: past => isReady n past
  | .called m _ :: past => if m = n then false else isReady n past

/-- The instances so far: the number of the next one, and what has happened, the last first. -/
structure Instances where
  next : Nat
  history : List Occurrence

/-- Something happens to an instance that is there. -/
def Instances.record (s : Instances) (event : Occurrence) : Instances :=
  { s with history := event :: s.history }

/-- A service behind any number of layers; the innermost is an instance with a number. -/
inductive Assembly where
  | service (number : Nat)
  | layered (layer : Layer) (inner : Assembly)

/-- A request under way: a layer has to decide about it, and holds the service behind it; or an
instance has it; or it was rejected; or nobody waits for it any more. -/
inductive Journey where
  | deciding (layer : Layer) (inner : Assembly) (parcel : Parcel)
  | serving (number : Nat) (parcel : Parcel)
  | rejected (rejection : Rejection)
  | abandoned

namespace Assembly

/-- Layers, the outermost first, around an instance. -/
def stack (layers : List Layer) (number : Nat) : Assembly :=
  layers.foldr layered (.service number)

/-- The number of the innermost instance. -/
def innermost : Assembly → Nat
  | .service n => n
  | .layered _ inner => inner.innermost

/-- Asks whether a service is ready.  The layers pass the question on, and the answer of the
instance back. -/
def poll (answer : Readiness) : Assembly → Instances → Readiness × Instances
  | .service n, s => (answer, s.record (.polled n answer))
  | .layered _ inner, s => inner.poll answer s

/-- A copy, whose innermost instance is new. -/
def copy : Assembly → Instances → Assembly × Instances
  | .service n, s =>
    (.service s.next, { s with next := s.next + 1 }.record (.copied n s.next))
  | .layered layer inner, s =>
    let (inner, s) := inner.copy s
    (.layered layer inner, s)

/-- Calls a service: what is left of it, and the journey of the request.  An instance gets the
request at once; a layer gives its inner service to the request and keeps a copy. -/
def call (parcel : Parcel) : Assembly → Instances → Assembly × Journey × Instances
  | .service n, s => (.service n, .serving n parcel, s.record (.called n parcel))
  | .layered layer inner, s =>
    let (kept, s) := inner.copy s
    (.layered layer kept, .deciding layer inner parcel, s)

end Assembly

namespace Journey

variable {σ : Type}

/-- The next stage of a journey: a layer that has to decide does so, and if the request goes on,
it is the service in the layer's hands that is called.  What is left of that is called by nobody
again. -/
def advance (ask : Nat → String → σ → Reply σ) (s : Instances) (stores : σ) :
    Journey → Journey × Instances × σ
  | .deciding layer inner parcel =>
    let here := layer.evaluate ask parcel.request stores
    match here.verdict with
    | .proceed =>
      let (_, journey, s) := inner.call parcel s
      (journey, s, here.state)
    | .reject rejection => (.rejected rejection, s, here.state)
  | journey => (journey, s, stores)

/-- The answer to a request that has come to an instance or was rejected. -/
def answer? (service : Service) : Journey → Option (Except String Response)
  | .serving _ parcel => some (service.call parcel.request)
  | .rejected rejection => some (.ok rejection.response)
  | .deciding _ _ _ | .abandoned => none

end Journey

/-- A service behind layers as its caller holds it, whether the caller was told that it is ready
and has not called since, the instances, the journeys of all requests so far in their order, and
what the stores hold. -/
structure Traffic (σ : Type) where
  assembly : Assembly
  granted : Bool
  instances : Instances
  journeys : List Journey
  stores : σ

namespace Traffic

variable {σ : Type}

/-- What can happen next: the caller asks or calls, a journey is advanced or given up, or the
stores change for reasons of their own. -/
inductive Move (σ : Type) where
  | poll (answer : Readiness)
  | call (request : Request)
  | advance (journey : Nat)
  | abandon (journey : Nat)
  | drift (stores : σ)

/-- Layers around a first instance that was not asked yet. -/
def opening (layers : List Layer) (stores : σ) : Traffic σ :=
  ⟨.stack layers 0, false, ⟨1, []⟩, [], stores⟩

/-- What a move does.  There is nothing to advance about a journey that nobody has begun. -/
def step (ask : Nat → String → σ → Reply σ) (t : Traffic σ) : Move σ → Traffic σ
  | .poll answer =>
    let (answer, instances) := t.assembly.poll answer t.instances
    { t with granted := decide (answer = .ready), instances := instances }
  | .call request =>
    let parcel : Parcel := ⟨t.journeys.length, request⟩
    let (assembly, journey, instances) :=
      t.assembly.call parcel (t.instances.record (.accepted parcel))
    { t with
      assembly := assembly
      granted := false
      instances := instances
      journeys := t.journeys ++ [journey] }
  | .advance i =>
    match t.journeys[i]? with
    | none => t
    | some journey =>
      let (journey, instances, stores) := journey.advance ask t.instances t.stores
      { t with
        instances := instances
        journeys := t.journeys.set i journey
        stores := stores }
  | .abandon i => { t with journeys := t.journeys.set i .abandoned }
  | .drift stores => { t with stores := stores }

/-- What moves, one after another, lead to. -/
def run (ask : Nat → String → σ → Reply σ) (t : Traffic σ) (moves : List (Move σ)) : Traffic σ :=
  moves.foldl (step ask) t

/-- Whether the caller may make a move: to call, it must have been told that the service is
ready, and not have called since. -/
def permits (t : Traffic σ) : Move σ → Bool
  | .call _ => t.granted
  | _ => true

/-- Whether the caller may make all of these moves, one after another. -/
def heeds (ask : Nat → String → σ → Reply σ) (t : Traffic σ) : List (Move σ) → Bool
  | [] => true
  | move :: rest => t.permits move && (t.step ask move).heeds ask rest

end Traffic
end Admission
