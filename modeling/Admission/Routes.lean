import Admission.Layer

/-!
# Routes

Two paths have answers, to requests that read; everything else is refused by path or by method.
One layer stands before all of it, so a request is charged before it is known whether its path
exists.

* `Routes.respond` — the answer to a method and a path;
* `Routes.finish` — what is added to any response on its way out, a rejection included;
* `Routes.call` — the layer, then the routes.
-/

namespace Admission.Routes

/-- The path that tells whether the program is alive. -/
def healthPath : String :=
  "/health"

/-- The body of a path that has an answer. -/
def body? (path : String) : Option String :=
  if path = "/" then some (Json.singleton "message" "ok")
  else if path = healthPath then some (Json.singleton "status" "healthy")
  else none

/-- Whether a method reads. -/
def reads (method : String) : Bool :=
  method == "GET" || method == "HEAD"

/-- The answer to a method and a path, before it is finished. -/
def handle (method path : String) : Response :=
  match body? path with
  | none => ⟨.notFound, [], ""⟩
  | some body =>
    if reads method then ⟨.ok, [("content-type", "application/json")], body⟩
    else ⟨.methodNotAllowed, [], ""⟩

/-- Names the methods of a path that has an answer but not to this one, states the length of the
body, and then leaves the body out where only its head was asked for. -/
def finish (method path : String) (r : Response) : Response :=
  let known := (body? path).isSome
  let allow := if known && !reads method then [("allow", "GET,HEAD")] else []
  { r with
    headers := r.headers ++ allow ++ [("content-length", toString r.body.utf8ByteSize)]
    body := if known && method == "HEAD" then "" else r.body }

/-- The answer to a method and a path. -/
def respond (method path : String) : Response :=
  finish method path (handle method path)

/-- The routes behind a layer. -/
def call {σ : Type} (l : Layer) (ask : Nat → String → σ → Reply σ) (r : Request) (state : σ) :
    Evaluation σ × Response :=
  let here := l.evaluate ask r state
  match here.verdict with
  | .proceed => (here, respond r.method r.target.path)
  | .reject rejection =>
    ({ here with events := here.events ++ [.requestRejected rejection] },
      finish r.method r.target.path rejection.response)

end Admission.Routes
