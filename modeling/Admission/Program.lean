import Admission.CommandLine
import Admission.Failure
import Admission.Log.Filter
import Admission.Log.Line
import Admission.Reclaimer

/-!
# The program

The program reads its arguments, loads its settings, builds the store and the reclaimer, and
serves until a signal.  What it would tell and what it would answer are values.

* `Program.launch` — from the options to a server, with what is told on the way;
* `Program.answer`, `Program.reclaim` — what a request and the passing of time do to it;
* `Program.run` — a whole run with its requests and its signal.
-/

namespace Admission

/-- A running program: where it listens, its store and its reclaimer. -/
structure Running where
  listen : SocketAddress
  store : Store
  reclaimer : Reclaimer

/-- What starting the program told, and whether it runs. -/
structure Launch where
  events : List Event
  result : Except Failure Running

/-- What a run did: its exit code, what it told of itself instead of a log, the events of its
log, the failure it ended with, and the responses, none where no connection was had. -/
structure Transcript where
  exit : Nat
  notice : Option String
  form : Log.Form
  events : List Event
  failure : Option Failure
  responses : List (Option Response)

namespace Program

/-- Whether a request asks for the program's health. -/
def asksHealth (r : Request) : Bool :=
  r.target.path == Routes.healthPath

/-- The layer before the routes: everything but the program's health is limited. -/
def layer : Layer :=
  { Layer.ofStore 0 with skipper := some asksHealth }

/-- From the options to a store and a reclaimer.  The first failure ends it. -/
def prepare (s : Surroundings) (o : Options) : Launch :=
  let begun := [.programStarted, .programVersion CommandLine.version]
  match Settings.load s o.config with
  | .error e => ⟨begun, .error (.settings e)⟩
  | .ok loaded =>
    let settings := o.apply loaded
    let loaded := begun ++ [.settingsLoaded settings.listen]
    match Limits.ofConfig settings.limiter.toConfig with
    | .error e => ⟨loaded, .error (.config e)⟩
    | .ok limits =>
      let limited := loaded ++ [.storeCreated limits, .limiterReady limits]
      match Reclaimer.spawn limits settings.limiter.reclaimInterval 0 with
      | .error e => ⟨limited, .error (.config e)⟩
      | .ok reclaimer =>
        ⟨limited ++ [.reclaimerStarted reclaimer.interval],
          .ok ⟨settings.listen, .empty limits, reclaimer⟩⟩

/-- From the options to a server. -/
def launch (s : Surroundings) (h : Host) (o : Options) : Launch :=
  let prepared := prepare s o
  match prepared.result with
  | .error _ => prepared
  | .ok running =>
    match Server.start h running.listen with
    | .error e => ⟨prepared.events, .error (.system e)⟩
    | .ok started => ⟨prepared.events ++ started, .ok running⟩

/-- The answer to a request: the program after it with what is told, and the response. -/
def answer (now : Instant) (p : Running) (r : Request) : (Running × List Event) × Response :=
  let (evaluation, response) := Routes.call layer (Backend.ask now) r [.memory p.store]
  let store := match evaluation.state with
    | [.memory store] => store
    | _ => p.store
  (({ p with store := store }, evaluation.events), response)

/-- What the reclaimer does by a moment after the start. -/
def reclaim (elapsed : Nat) (now : Instant) (p : Running) : Running × List Event :=
  let passed := p.reclaimer.pass .jumping elapsed now (some p.store)
  ({ p with store := passed.store.getD p.store, reclaimer := passed.reclaimer }, passed.events)

/-- A request and its response, none without a connection; and what is told. -/
def exchange (h : Host) (now : Instant) (p : Running) (r : Request) :
    Running × Option Response × List Event :=
  match Server.exchange h (answer now p) r with
  | none => (p, none, [])
  | some ((p, events), response) => (p, some response, events)

/-- Requests at one reading of the clock, one after another. -/
def exchanges (h : Host) (now : Instant) (p : Running) :
    List Request → List (Option Response) × List Event
  | [] => ([], [])
  | r :: rest =>
    let (p, response, events) := exchange h now p r
    let (responses, more) := exchanges h now p rest
    (response :: responses, events ++ more)

/-- What is told when a signal ends the program while no connection is open. -/
def farewell (signal : Signal) : List Event :=
  [.signalReceived signal, .shutdownBegun, .acceptingEnded, .connectionsAwaited 0,
    .reclaimerStopped, .programStopped]

/-- The filter of the log, from the environment. -/
def filter (s : Surroundings) : Log.Filter :=
  .ofVariable (s.environment.lookup "RUST_LOG")

/-- A run of the program: its surroundings and host, its arguments, the requests at one reading
of the clock, and the signal that ends it. -/
def run (s : Surroundings) (h : Host) (arguments : List String) (now : Instant)
    (requests : List Request) (signal : Signal) : Transcript :=
  match CommandLine.parse s.environment arguments with
  | .error .help => ⟨0, some (CommandLine.helpText s.environment), .text, [], none, []⟩
  | .error .version => ⟨0, some CommandLine.versionText, .text, [], none, []⟩
  | .error (.refused _) => ⟨2, none, .text, [], none, []⟩
  | .ok o =>
    let form : Log.Form := if o.logJson then .object else .text
    let told := (filter s).tells
    let start := launch s h o
    match start.result with
    | .error e => ⟨1, none, form, start.events.filter told, some e, []⟩
    | .ok running =>
      let (responses, events) := exchanges h now running requests
      ⟨0, none, form, (start.events ++ events ++ farewell signal).filter told, none, responses⟩

end Program
end Admission
