import Admission.Limits
import Admission.Rejection

/-!
# What is logged

An event is something worth telling; how it is told — level, source, message and fields — is
decided in one place each.  Operations give their events as values, in order.
-/

namespace Admission

/-- How much an event matters, the least first. -/
inductive Level where
  | trace
  | debug
  | info
  | warn
  | error
deriving DecidableEq

/-- The name of a level. -/
def Level.text : Level → String
  | .trace => "TRACE"
  | .debug => "DEBUG"
  | .info => "INFO"
  | .warn => "WARN"
  | .error => "ERROR"

/-- Higher levels matter more. -/
def Level.rank : Level → Nat
  | .trace => 0
  | .debug => 1
  | .info => 2
  | .warn => 3
  | .error => 4

/-- The signals that end the program. -/
inductive Signal where
  | interrupt
  | terminate
deriving DecidableEq

/-- The events of the library and of the program. -/
inductive Event where
  | storeCreated (limits : Limits)
  | visitorTracked (identifier : String)
  | limitChecked (identifier : String) (allowed : Bool)
  | registryFull (identifier : String) (limit : Nat)
  | visitorsReclaimed (removed remaining : Nat)
  | reclaimerStarted (interval : Duration)
  | reclaimerStopped
  | reclaimerOrphaned
  | limitSkipped (path : String)
  | identifierFailed (cause : IdentifierError)
  | limitExceeded (identifier : String)
  | storeFailed (identifier : String) (cause : StoreError) (admitted : Bool)
  | requestRejected (rejection : Rejection)
  | serverStarted (address : SocketAddress)
  | programStarted
  | programVersion (version : String)
  | settingsLoaded (address : SocketAddress)
  | limiterReady (limits : Limits)
  | signalReceived (signal : Signal)
  | shutdownBegun
  | acceptingEnded
  | connectionsAwaited (count : Nat)
  | programStopped

/-- The value of a field. -/
inductive FieldValue where
  | text (value : String)
  | real (value : Binary64)
  | count (value : Nat)
  | truth (value : Bool)

/-- A field of an event. -/
structure Field where
  name : String
  value : FieldValue

namespace Event

/-- The level of an event. -/
def level : Event → Level
  | .limitChecked .. | .limitSkipped .. => .trace
  | .shutdownBegun | .acceptingEnded | .connectionsAwaited .. => .trace
  | .storeCreated .. | .visitorTracked .. | .registryFull .. | .visitorsReclaimed .. => .debug
  | .reclaimerOrphaned | .identifierFailed .. | .limitExceeded .. | .requestRejected .. => .debug
  | .storeFailed .. => .warn
  | .reclaimerStarted .. | .reclaimerStopped | .serverStarted .. | .programStarted => .info
  | .programVersion .. | .settingsLoaded .. | .limiterReady .. | .signalReceived .. => .info
  | .programStopped => .info

/-- The part of the program that an event comes from. -/
def source : Event → String
  | .storeCreated .. | .visitorTracked .. | .limitChecked .. => "tollgate::ratelimit::memory"
  | .registryFull .. | .visitorsReclaimed .. => "tollgate::ratelimit::memory"
  | .reclaimerStarted .. | .reclaimerStopped => "tollgate::ratelimit::reclaimer"
  | .reclaimerOrphaned => "tollgate::ratelimit::reclaimer"
  | .limitSkipped .. | .identifierFailed .. => "tollgate::middleware::layer"
  | .limitExceeded .. | .storeFailed .. => "tollgate::middleware::layer"
  | .requestRejected .. => "tollgate::middleware::service"
  | .serverStarted .. => "tollgate::server"
  | .shutdownBegun | .acceptingEnded | .connectionsAwaited .. => "axum::serve"
  | .programStarted | .programVersion .. | .settingsLoaded .. => "tollgate"
  | .limiterReady .. | .signalReceived .. | .programStopped => "tollgate"

/-- The message of an event. -/
def message : Event → String
  | .storeCreated .. => "Creating in-memory rate limiter store"
  | .visitorTracked .. => "Tracking new visitor"
  | .limitChecked .. => "Checked rate limit"
  | .registryFull .. => "Visitor registry full, refusing new identifier"
  | .visitorsReclaimed .. => "Reclaimed stale visitors"
  | .reclaimerStarted .. => "Started visitor reclaimer"
  | .reclaimerStopped => "Stopped visitor reclaimer"
  | .reclaimerOrphaned => "Store dropped, visitor reclaimer exiting"
  | .limitSkipped .. => "Skipping rate limit"
  | .identifierFailed .. => "Failed to extract rate limit identifier"
  | .limitExceeded .. => "Rate limit exceeded"
  | .storeFailed _ _ admitted =>
    if admitted then "Rate limiter store failed, admitting request"
    else "Rate limiter store failed, rejecting request"
  | .requestRejected .. => "Rejected request"
  | .serverStarted .. => "Starting HTTP server"
  | .programStarted => "Starting Tollgate"
  | .programVersion version => "Version: " ++ version
  | .settingsLoaded .. => "Configuration loaded"
  | .limiterReady .. => "Rate limiter initialized"
  | .signalReceived .interrupt => "Received Ctrl+C, initiating graceful shutdown"
  | .signalReceived .terminate => "Received SIGTERM, initiating graceful shutdown"
  | .shutdownBegun => "received graceful shutdown signal. Telling tasks to shutdown"
  | .acceptingEnded => "signal received, not accepting new connections"
  | .connectionsAwaited count => "waiting for " ++ toString count ++ " task(s) to finish"
  | .programStopped => "Tollgate stopped"

/-- A cap on the number of identifiers as the log shows it. -/
def capText : Option Nat → String
  | none => "None"
  | some cap => "Some(" ++ toString cap ++ ")"

/-- The fields of an event, in the order in which they are written. -/
def fields : Event → List Field
  | .storeCreated limits =>
    [⟨"rate", .real limits.allowance.rate⟩, ⟨"burst", .count limits.allowance.burst.toNat⟩,
      ⟨"expires_in_secs", .real limits.expiresIn.toSeconds⟩,
      ⟨"max_visitors", .text (capText limits.maxVisitors)⟩]
  | .visitorTracked identifier => [⟨"identifier", .text identifier⟩]
  | .limitChecked identifier allowed =>
    [⟨"identifier", .text identifier⟩, ⟨"allowed", .truth allowed⟩]
  | .registryFull identifier limit =>
    [⟨"identifier", .text identifier⟩, ⟨"limit", .count limit⟩]
  | .visitorsReclaimed removed remaining =>
    [⟨"removed", .count removed⟩, ⟨"remaining", .count remaining⟩]
  | .reclaimerStarted interval => [⟨"interval_secs", .real interval.toSeconds⟩]
  | .limitSkipped path => [⟨"path", .text path⟩]
  | .identifierFailed cause => [⟨"error", .text cause.message⟩]
  | .limitExceeded identifier => [⟨"identifier", .text identifier⟩]
  | .storeFailed identifier cause _ =>
    [⟨"identifier", .text identifier⟩, ⟨"error", .text cause.message⟩]
  | .requestRejected rejection => [⟨"rejection", .text rejection.describe⟩]
  | .serverStarted address => [⟨"addr", .text address.write⟩]
  | .settingsLoaded address => [⟨"listen_addr", .text address.write⟩]
  | .limiterReady limits =>
    [⟨"rate", .real limits.allowance.rate⟩, ⟨"burst", .count limits.allowance.burst.toNat⟩,
      ⟨"expires_in_secs", .count limits.expiresIn.seconds⟩]
  | _ => []

end Event
end Admission
