import Admission.Program
import Std.Async
import Std.Http

/-!
# The command

The outer layer of the program: it reads the environment, the files and the clock, takes requests
from the network, waits for a signal, and prints.  What is done and told is decided in `Program`.
-/

namespace Admission.Main

/-- The variables in a block of assignments that each end in a zero byte.  What is not text is
left out. -/
def environmentOf (block : ByteArray) : List (String × String) :=
  (block.toList.splitOn 0).filterMap fun bytes => do
    let text ← String.fromUTF8? ⟨bytes.toArray⟩
    let name := text.toList.takeWhile (· != '=')
    if name.isEmpty then none
    else some (String.ofList name, String.ofList (text.toList.drop (name.length + 1)))

/-- The files that a path may name, as far as they can be read. -/
def filesAt (s : Surroundings) (path : String) : IO (List (String × String)) := do
  (s.candidates path).filterMapM fun (candidate : String) => do
    try
      let text ← IO.FS.readFile candidate
      return some (candidate, text)
    catch _ =>
      return none

/-- What the program can see, of the files only the one that is asked for. -/
def surroundings (environment : List (String × String)) (path : Option String) :
    IO Surroundings := do
  let s : Surroundings := ⟨(← IO.currentDir).toString, [], environment⟩
  match path with
  | some path => return { s with files := ← filesAt s path }
  | none => return s

/-- The reading of the clock; one that the calendar does not cover stands at its start. -/
def now : IO Instant := do
  let timestamp ← Std.Time.Timestamp.now
  return (Instant.ofNanoseconds? timestamp.toNanosecondsSinceUnixEpoch.val).getD .epoch

/-- Prints the events that the log tells. -/
def tell (filter : Log.Filter) (form : Log.Form) (events : List Event) : IO Unit := do
  let out ← IO.getStdout
  (events.filter filter.tells).forM fun e => out.putStrLn (Log.Line.write form e)
  out.flush

/-- An address for the network. -/
def toNetwork : SocketAddress → Std.Net.SocketAddress
  | .v4 ip port => .v4 ⟨⟨ip.octets⟩, port⟩
  | .v6 ip port _ _ => .v6 ⟨⟨ip.groups⟩, port⟩

/-- An address from the network. -/
def ofNetwork : Std.Net.SocketAddress → SocketAddress
  | .v4 address => .v4 ⟨address.addr.octets⟩ address.port
  | .v6 address => .v6 ⟨address.addr.segments⟩ address.port 0 0

/-- A request as it comes from the network, without its body, which no answer looks at. -/
def request (r : Std.Http.Request Std.Http.Body.Stream) : Request where
  method := toString r.line.method
  target := .ofText (toString r.line.uri)
  headers := r.line.headers.toList.map fun (name, value) =>
    ⟨name.value, value.value.toList.map fun c => UInt8.ofNat c.toNat⟩
  connection := (r.extensions.get Std.Http.Server.RemoteAddr).map fun remote =>
    ofNetwork remote.addr
  peer := none
  trusted := false
  body := ""

/-- A response for the network, which states the length of the body itself. -/
def response (r : Response) :
    Std.Async.Async (Std.Http.Response Std.Http.Body.Any) := do
  let builder := r.headers.foldl
    (fun builder (name, value) =>
      if name == "content-length" then builder else (builder.header? name value).getD builder)
    (Std.Http.Response.withStatus
      ((Std.Http.Status.ofCode none (UInt16.ofNat r.status.code)).getD .ok))
  let body ← Std.Http.Body.Full.ofString r.body
  return builder.body (.ofBody body)

/-- The program while it runs, with what its log tells and how. -/
structure Service where
  running : Std.Mutex Running
  filter : Log.Filter
  form : Log.Form

/-- Lets something happen to a running program, and tells of it. -/
def Service.change {α : Type} (s : Service) (f : Instant → Running → (Running × List Event) × α) :
    IO α := do
  let moment ← now
  let (events, result) ← s.running.atomically do
    let ((running, events), result) := f moment (← get)
    set running
    return (events, result)
  tell s.filter s.form events
  return result

/-- Answers the requests that come in. -/
def Service.handler (s : Service) : Std.Http.Server.StatelessHandler :=
  Std.Http.Server.Handler.ofFn fun r => do
    let answer ← s.change fun moment running => Program.answer moment running (request r)
    response answer

/-- Runs the reclaimer whenever it is due. -/
def Service.watch (s : Service) (start : Nat) : Std.Async.Async Unit := do
  repeat
    let elapsed := (← IO.monoNanosNow) - start
    let due ← s.change fun moment running =>
      let (running, events) := Program.reclaim elapsed moment running
      ((running, events), running.reclaimer.ticker.due)
    Std.Async.sleep (.ofNat ((due - elapsed) / 1000000 + 1))

/-- Waits for a signal that ends the program. -/
def awaitSignal : Std.Async.Async Signal := do
  let interrupt ← Std.Async.Signal.Waiter.mk .sigint false
  let terminate ← Std.Async.Signal.Waiter.mk .sigterm false
  Std.Async.Selectable.one #[
    .case interrupt.selector fun _ => return .interrupt,
    .case terminate.selector fun _ => return .terminate]

/-- Why an address could not be bound. -/
def systemError : IO.Error → SystemError
  | .permissionDenied .. => .permissionDenied
  | .resourceBusy .. => .addressInUse
  | .unsupportedOperation .. => .addressNotAvailable
  | e => .other (toString e)

/-- Serves until a signal comes; gives the exit code. -/
def serve (s : Surroundings) (o : Options) : IO UInt32 := do
  let filter := Program.filter s
  let form := if o.logJson then .object else .text
  let prepared := Program.prepare s o
  tell filter form prepared.events
  let fail (e : Failure) : IO UInt32 := do
    IO.eprint e.report
    return 1
  match prepared.result with
  | .error e => fail e
  | .ok running =>
    let service : Service := ⟨← Std.Mutex.new running, filter, form⟩
    Std.Async.Async.block do
      let bound : Except IO.Error Std.Http.Server ←
        try
          let server ← Std.Http.Server.serve (toNetwork running.listen) service.handler
          pure (.ok server)
        catch e => pure (.error e)
      match bound with
      | .error e => fail (.system (systemError e))
      | .ok server =>
        let signals : Std.Async.AsyncTask Signal ← Std.Async.async awaitSignal
        tell filter form [.serverStarted running.listen]
        Std.Async.background (service.watch (← IO.monoNanosNow))
        let signal ← Std.Async.await signals
        server.shutdownAndWait
        tell filter form (Program.farewell signal)
        return 0

end Admission.Main

/-- Reads the arguments, and serves unless they ask for a text or are refused. -/
def main (arguments : List String) : IO UInt32 := do
  let environment := Admission.Main.environmentOf (← IO.FS.readBinFile "/proc/self/environ")
  match Admission.CommandLine.parse environment arguments with
  | .error .help =>
    IO.print (Admission.CommandLine.helpText environment)
    return 0
  | .error .version =>
    IO.print Admission.CommandLine.versionText
    return 0
  | .error (.refused cause) =>
    IO.eprintln ("error: " ++ cause.text ++ "\n\nFor more information, try '--help'.")
    return 2
  | .ok options =>
    Admission.Main.serve (← Admission.Main.surroundings environment options.config) options
