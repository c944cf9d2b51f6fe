import Admission.Decimal.Layout
import Admission.Text.Escaped
import Admission.Time

/-!
# What can go wrong

Errors are causes; each family has one function that words them.  `message` is the wording for
readers, `describe` the cause itself as diagnostics show it.

* `ConfigError` — limits that no store can keep, or a layer without a store;
* `StoreError` — the answers a store gives instead of a decision;
* `IdentifierError` — why a request has no identifier;
* `AdmissionError` — either of the last two, as an error handler receives it.
-/

namespace Admission

/-- The greatest period that may be scheduled: a hundred years of 365 days. -/
def maxPeriod : Duration :=
  .ofSeconds 3153600000

/-- The periods that a configuration sets. -/
inductive PeriodName where
  | expiresIn
  | reclaimInterval
deriving DecidableEq

/-- The setting's name. -/
def PeriodName.text : PeriodName → String
  | .expiresIn => "expires_in"
  | .reclaimInterval => "reclaim_interval"

/-- Why a configuration is refused. -/
inductive ConfigError where
  | burstTooSmall
  | badRate (rate : Binary64)
  | periodTooLong (name : PeriodName) (period : Duration)
  | storeRequired
  | other (detail : String)
deriving DecidableEq

/-- The wording of a refused configuration. -/
def ConfigError.message : ConfigError → String
  | .burstTooSmall => "burst must be at least 1"
  | .badRate rate =>
    "rate must be a finite, non-negative number, got " ++ Decimal.plain.write rate
  | .periodTooLong name period =>
    name.text ++ " must be at most " ++ toString maxPeriod.seconds ++ " seconds, got "
      ++ toString period.seconds
  | .storeRequired => "rate limiter store is required"
  | .other detail => detail

/-- Why a store gives no decision. -/
inductive StoreError where
  | capacityExceeded (limit : Nat)
  | unavailable (detail : String)
deriving DecidableEq

/-- The wording of a store's failure. -/
def StoreError.message : StoreError → String
  | .capacityExceeded limit =>
    "visitor registry is at capacity (" ++ toString limit ++ " identifiers)"
  | .unavailable detail => "rate limiter backend unavailable: " ++ detail

/-- A store's failure as diagnostics show it. -/
def StoreError.describe : StoreError → String
  | .capacityExceeded limit => "CapacityExceeded \x7b limit: " ++ toString limit ++ " \x7d"
  | .unavailable detail => "Unavailable(" ++ Text.inQuotes detail ++ ")"

/-- Why a request has no identifier. -/
inductive IdentifierError where
  | missing
  | missingHeader (name : String)
  | invalidHeader (name : String)
  | other (detail : String)
deriving DecidableEq

/-- The wording of a missing identifier. -/
def IdentifierError.message : IdentifierError → String
  | .missing => "no client address available"
  | .missingHeader name => "missing header " ++ name
  | .invalidHeader name => "invalid header " ++ name
  | .other detail => detail

/-- A missing identifier as diagnostics show it. -/
def IdentifierError.describe : IdentifierError → String
  | .missing => "Missing"
  | .missingHeader name => "MissingHeader(" ++ Text.inQuotes name ++ ")"
  | .invalidHeader name => "InvalidHeader(" ++ Text.inQuotes name ++ ")"
  | .other detail => "Other(" ++ Text.inQuotes detail ++ ")"

/-- Why a request was not decided by its bucket. -/
inductive AdmissionError where
  | identifier (cause : IdentifierError)
  | store (cause : StoreError)
deriving DecidableEq

/-- The wording is that of the cause. -/
def AdmissionError.message : AdmissionError → String
  | .identifier cause => cause.message
  | .store cause => cause.message

/-- The error of either kind as diagnostics show it. -/
def AdmissionError.describe : AdmissionError → String
  | .identifier cause => "Identifier(" ++ cause.describe ++ ")"
  | .store cause => "Store(" ++ cause.describe ++ ")"

end Admission
