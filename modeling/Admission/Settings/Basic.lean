import Admission.Limits
import Admission.Settings.Coerce
import Admission.Settings.Source

/-!
# Settings

What the program is told before it starts: where to listen, and the limits.  Every setting has a
default; a file comes over the defaults, and the environment over the file.

* `Settings.ofText` — from a text alone;
* `Settings.load` — from a file, if one is given, and the environment.
-/

namespace Admission

/-- The settings of the limiter.  Zero leaves a value to the store's default. -/
structure LimiterSettings where
  rate : Binary64
  burst : UInt32
  expiresInSecs : Nat
  reclaimIntervalSecs : Nat
  maxVisitors : Option Nat
deriving DecidableEq

/-- All settings. -/
structure Settings where
  listen : SocketAddress
  limiter : LimiterSettings
deriving DecidableEq

namespace LimiterSettings

/-- Everything left to the store. -/
def blank : LimiterSettings :=
  ⟨.zero false, 0, 0, 0, none⟩

/-- The configuration of a store. -/
def toConfig (s : LimiterSettings) : LimiterConfig :=
  ⟨s.rate, s.burst, .ofSeconds s.expiresInSecs, s.maxVisitors⟩

/-- The interval of a reclaimer. -/
def reclaimInterval (s : LimiterSettings) : Duration :=
  .ofSeconds s.reclaimIntervalSecs

/-- The limiter's settings in a table. -/
def ofTable (l : Located) : Except SettingsError LimiterSettings := do
  l.asTable "LimiterSettings"
  let rate ← readOr (.zero false) Located.real (l.part "rate" 0)
  let burst ← readOr 0 Located.burst (l.part "burst" 1)
  let expiresInSecs ← readOr 0 Located.natural (l.part "expires_in_secs" 2)
  let reclaimIntervalSecs ← readOr 0 Located.natural (l.part "reclaim_interval_secs" 3)
  let maxVisitors ← readOr none Located.cap (l.part "max_visitors" 4)
  return ⟨rate, burst, expiresInSecs, reclaimIntervalSecs, maxVisitors⟩

end LimiterSettings

namespace Settings

/-- Where the program listens unless it is told: port 8080 of the host itself. -/
def defaultListen : SocketAddress :=
  .v4 .loopback 8080

/-- Nothing told. -/
def blank : Settings :=
  ⟨defaultListen, .blank⟩

/-- The listening address in the server's table. -/
def listenOfTable (l : Located) : Except SettingsError SocketAddress := do
  l.asTable "ServerConfig"
  readOr defaultListen Located.address (l.part "listen_addr" 0)

/-- The settings in the entries at the top. -/
def ofEntries (entries : List (String × Value)) : Except SettingsError Settings := do
  let at_ (key : String) : Option Located :=
    (Value.lookup key entries).map fun v => ⟨key, v⟩
  let listen ← readOr defaultListen listenOfTable (at_ "server")
  let limiter ← readOr .blank LimiterSettings.ofTable (at_ "limiter")
  return ⟨listen, limiter⟩

/-- The settings of a text, without the environment. -/
def ofText (text : String) : Except SettingsError Settings := do
  ofEntries (← KeyPath.arriveAll [] (← Source.ofText none text))

/-- The settings of a file, if one is given, with the environment over it. -/
def load (s : Surroundings) (path : Option String) : Except SettingsError Settings := do
  let file ← match path with
    | some path => Source.ofFile s path
    | none => .ok []
  let entries ← KeyPath.arriveAll [] file
  ofEntries (← KeyPath.arriveAll entries (Source.ofEnvironment s.environment))

end Settings
end Admission
