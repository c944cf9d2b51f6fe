import Admission.Identifier
import Admission.Store

/-!
# Layers

A layer stands before a service and decides which requests reach it.  It may skip a request; if
not, it runs its hook, finds the request's identifier and asks its store.  The store is asked
through a function of whatever state the stores share, so a layer knows nothing of how they work.

* `Layer.evaluate` — one layer's verdict on a request;
* `Stack.call` — layers from the outermost to the service: the first rejection is the answer,
  and nothing behind it runs.
-/

namespace Admission

/-- What a layer does with a request when its store gives no decision. -/
inductive StoreErrorPolicy where
  | failClosed
  | failOpen
deriving DecidableEq

/-- A layer: the number of its store, its hooks, and its policy. -/
structure Layer where
  store : Nat
  skipper : Option (Request → Bool)
  before : Bool
  extractor : Request → Except IdentifierError String
  onDenial : Request → String → Rejection
  onError : Request → AdmissionError → Rejection
  onStoreError : StoreErrorPolicy

/-- The parts of a layer as far as they are given. -/
structure LayerOptions where
  store : Option Nat
  skipper : Option (Request → Bool)
  before : Bool
  extractor : Option (Request → Except IdentifierError String)
  onDenial : Option (Request → String → Rejection)
  onError : Option (Request → AdmissionError → Rejection)
  onStoreError : StoreErrorPolicy

/-- Nothing given. -/
def LayerOptions.blank : LayerOptions :=
  ⟨none, none, false, none, none, none, .failClosed⟩

namespace Layer

/-- A layer over a store with everything else left to its default. -/
def ofStore (store : Nat) : Layer where
  store := store
  skipper := none
  before := false
  extractor := Identifier.realIp
  onDenial := fun _ id => Rejection.ofDenial id
  onError := fun _ e => Rejection.ofError e
  onStoreError := .failClosed

/-- The layer of the given options; a store is required. -/
def ofOptions (o : LayerOptions) : Except ConfigError Layer :=
  match o.store with
  | none => .error .storeRequired
  | some store =>
    let base := ofStore store
    .ok { base with
      skipper := o.skipper
      before := o.before
      extractor := o.extractor.getD base.extractor
      onDenial := o.onDenial.getD base.onDenial
      onError := o.onError.getD base.onError
      onStoreError := o.onStoreError }

/-- The name of a policy. -/
def policyText : StoreErrorPolicy → String
  | .failClosed => "FailClosed"
  | .failOpen => "FailOpen"

/-- What a layer looks like in diagnostics: which hooks it has, and its policy. -/
def describe (l : Layer) : String :=
  "RateLimitLayer \x7b skipper: " ++ toString l.skipper.isSome ++ ", before: "
    ++ toString l.before ++ ", on_store_error: " ++ policyText l.onStoreError ++ " \x7d"

/-- What a layer around a service looks like in diagnostics. -/
def describeAround (inner : String) : String :=
  "RateLimitService \x7b inner: " ++ inner ++ " \x7d"

end Layer

/-- What a layer does, one thing at a time. -/
inductive Action where
  | askedSkipper
  | ranBefore
  | extracted
  | askedStore (store : Nat) (id : String)
  | denied (id : String)
  | handledError (cause : AdmissionError)
deriving DecidableEq

/-- Whether a request goes on. -/
inductive Verdict where
  | proceed
  | reject (rejection : Rejection)
deriving DecidableEq

/-- A verdict, what is left of the stores, what the layer did, and what was logged. -/
structure Evaluation (σ : Type) where
  verdict : Verdict
  state : σ
  actions : List Action
  events : List Event

namespace Layer

variable {σ : Type}

/-- The verdict when the store has been asked. -/
def settle (l : Layer) (r : Request) (id : String) (reply : Reply σ) : Evaluation σ :=
  match reply.answer with
  | .ok true => ⟨.proceed, reply.state, [.askedStore l.store id], reply.events⟩
  | .ok false =>
    ⟨.reject (l.onDenial r id), reply.state, [.askedStore l.store id, .denied id],
      reply.events ++ [.limitExceeded id]⟩
  | .error cause =>
    match l.onStoreError with
    | .failClosed =>
      ⟨.reject (l.onError r (.store cause)), reply.state,
        [.askedStore l.store id, .handledError (.store cause)],
        reply.events ++ [.storeFailed id cause false]⟩
    | .failOpen =>
      ⟨.proceed, reply.state, [.askedStore l.store id],
        reply.events ++ [.storeFailed id cause true]⟩

/-- The verdict on a request that is not skipped. -/
def judge (l : Layer) (ask : Nat → String → σ → Reply σ) (r : Request) (state : σ) :
    Evaluation σ :=
  match l.extractor r with
  | .error cause =>
    ⟨.reject (l.onError r (.identifier cause)), state,
      [.extracted, .handledError (.identifier cause)], [.identifierFailed cause]⟩
  | .ok id =>
    let settled := l.settle r id (ask l.store id state)
    { settled with actions := .extracted :: settled.actions }

/-- The verdict on a request. -/
def evaluate (l : Layer) (ask : Nat → String → σ → Reply σ) (r : Request) (state : σ) :
    Evaluation σ :=
  let asked := if l.skipper.isSome then [Action.askedSkipper] else []
  if l.skipper.any fun skip => skip r then
    ⟨.proceed, state, asked, [.limitSkipped r.target.path]⟩
  else
    let decided := l.judge ask r state
    { decided with
      actions := asked ++ (if l.before then [.ranBefore] else []) ++ decided.actions }

end Layer

/-- The service behind the layers: whether it is ready, and what it answers. -/
structure Service where
  ready : Except String Unit
  call : Request → Except String Response

/-- What happened to a request: an action of the layer at a depth, or a call of the service. -/
inductive Happening where
  | layer (depth : Nat) (action : Action)
  | served (request : Request)

/-- The answer to a request, what is left of the stores, what happened, and what was logged. -/
structure Outcome (σ : Type) where
  answer : Except String Response
  state : σ
  happenings : List Happening
  events : List Event

namespace Stack

variable {σ : Type}

/-- The layers from a depth on, and then the service. -/
def descend (ask : Nat → String → σ → Reply σ) (service : Service) (r : Request)
    (depth : Nat) (state : σ) : List Layer → Outcome σ
  | [] => ⟨service.call r, state, [.served r], []⟩
  | l :: rest =>
    let here := l.evaluate ask r state
    let actions := here.actions.map (Happening.layer depth)
    match here.verdict with
    | .reject rejection =>
      ⟨.ok rejection.response, here.state, actions,
        here.events ++ [.requestRejected rejection]⟩
    | .proceed =>
      let below := descend ask service r (depth + 1) here.state rest
      ⟨below.answer, below.state, actions ++ below.happenings, here.events ++ below.events⟩

/-- The answer of layers, the outermost first, around a service.  A service that is not ready
answers for all of them. -/
def call (layers : List Layer) (ask : Nat → String → σ → Reply σ) (service : Service)
    (r : Request) (state : σ) : Outcome σ :=
  match service.ready with
  | .error e => ⟨.error e, state, [], []⟩
  | .ok () => descend ask service r 0 state layers

end Stack

/-- A store as a layer meets it: one that keeps buckets, or one that always says the same. -/
inductive Backend where
  | memory (store : Store)
  | fixed (answer : Except StoreError Bool)

namespace Backend

/-- The answer of one store. -/
def allow (b : Backend) (id : String) (now : Instant) : Reply Backend :=
  match b with
  | .memory s =>
    let reply := s.allow id now
    ⟨reply.answer, .memory reply.state, reply.events⟩
  | .fixed answer => ⟨answer, b, []⟩

/-- The answer of one of several stores; the others stay as they are. -/
def ask (now : Instant) (number : Nat) (id : String) (stores : List Backend) :
    Reply (List Backend) :=
  match stores[number]? with
  | some b =>
    let reply := b.allow id now
    ⟨reply.answer, stores.set number reply.state, reply.events⟩
  | none => ⟨.error (.unavailable "no store of this number"), stores, []⟩

end Backend
end Admission
