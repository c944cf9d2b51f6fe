import Admission.Bucket

/-!
# The limits a store keeps

A configuration names a rate, a burst, an idle period and a cap; zero leaves a value to its
default.  `LimiterConfig.resolve` fills the defaults in and `Limits.ofConfig` checks the result,
so that limits, once built, need no further check.
-/

namespace Admission

/-- The configuration of a store.  Zero stands for "the default". -/
structure LimiterConfig where
  rate : Binary64
  burst : UInt32
  expiresIn : Duration
  maxVisitors : Option Nat

/-- Tokens a second when neither rate nor burst is given. -/
def defaultRate : Binary64 :=
  .ofNat 10

/-- The burst when neither rate nor burst is given. -/
def defaultBurst : UInt32 :=
  30

/-- The idle period when none is given: three minutes. -/
def defaultExpiry : Duration :=
  .ofSeconds 180

namespace LimiterConfig

/-- The least whole burst that holds a second's tokens, at least one and within 32 bits. -/
def burstFor (rate : Binary64) : UInt32 :=
  UInt32.ofNat (max 1 (rate.toBounded 4294967295 Rat.ceil))

/-- Rate and burst with the defaults filled in: both when both are zero, the burst alone when it
is zero and the rate is finite and positive. -/
def resolveRate (c : LimiterConfig) : LimiterConfig :=
  if c.rate.isZero ∧ c.burst = 0 then
    { c with rate := defaultRate, burst := defaultBurst }
  else if c.burst = 0 ∧ c.rate.isFinite ∧ Binary64.zero false < c.rate then
    { c with burst := burstFor c.rate }
  else c

/-- The idle period with the default filled in. -/
def resolveExpiry (c : LimiterConfig) : LimiterConfig :=
  if c.expiresIn = .zero then { c with expiresIn := defaultExpiry } else c

/-- The configuration with every default filled in. -/
def resolve (c : LimiterConfig) : LimiterConfig :=
  c.resolveRate.resolveExpiry

end LimiterConfig

/-- Limits that a store can keep: an allowance for each identifier, an idle period that can be
scheduled, and a cap on the number of identifiers. -/
structure Limits where
  allowance : Allowance
  expiresIn : Duration
  maxVisitors : Option Nat
  expires_pos : Duration.zero < expiresIn
  expires_le : expiresIn ≤ maxPeriod

/-- A resolved configuration has an idle period. -/
theorem LimiterConfig.zero_lt_resolve_expiresIn (c : LimiterConfig) :
    Duration.zero < c.resolve.expiresIn := by
  unfold resolve resolveExpiry
  split
  · show Duration.zero < defaultExpiry
    decide
  · next h =>
    have hne : c.resolveRate.expiresIn.nanoseconds ≠ 0 := fun hz => h (by
      cases he : c.resolveRate.expiresIn with
      | mk n => simp_all [Duration.zero])
    exact Nat.pos_of_ne_zero hne

/-- The limits of a configuration, or the first thing wrong with it: the burst, then the rate,
then the idle period. -/
def Limits.ofConfig (c : LimiterConfig) : Except ConfigError Limits :=
  match Allowance.of? c.resolve.rate c.resolve.burst with
  | .error e => .error e
  | .ok allowance =>
    if h : c.resolve.expiresIn ≤ maxPeriod then
      .ok ⟨allowance, c.resolve.expiresIn, c.resolve.maxVisitors,
        c.zero_lt_resolve_expiresIn, h⟩
    else .error (.periodTooLong .expiresIn c.resolve.expiresIn)

/-- The configuration that these limits are the limits of. -/
def Limits.toConfig (l : Limits) : LimiterConfig :=
  ⟨l.allowance.rate, l.allowance.burst, l.expiresIn, l.maxVisitors⟩

end Admission
