import Admission.Error

/-!
# Token buckets

A bucket holds up to `burst` tokens and gains `rate` of them a second.  A call takes one token
if there is one.  The count is brought up to date only when the bucket is looked at, so a bucket
needs no clock of its own.

* `Allowance.of?` — the rates and bursts a bucket accepts;
* `Bucket.tokensAt` — the count at an instant, without changing the bucket;
* `Bucket.allow` — brings the bucket up to date and takes a token;
* `Bucket.nextAvailable` — how long a caller waits for the next token.
-/

namespace Admission

/-- How fast a bucket refills and how much it holds. -/
structure Allowance where
  rate : Binary64
  burst : UInt32
  rate_finite : rate.isFinite = true
  rate_nonneg : Binary64.zero false ≤ rate
  burst_pos : 1 ≤ burst

namespace Allowance

/-- The allowance of a rate and a burst, unless the burst holds nothing or the rate is no
finite, non-negative number.  The burst is looked at first. -/
def of? (rate : Binary64) (burst : UInt32) : Except ConfigError Allowance :=
  if hb : 1 ≤ burst then
    if hr : rate.isFinite = true ∧ Binary64.zero false ≤ rate then
      .ok ⟨rate, burst, hr.1, hr.2, hb⟩
    else .error (.badRate rate)
  else .error .burstTooSmall

/-- The burst as a number of tokens. -/
def capacity (a : Allowance) : Binary64 :=
  .ofNat a.burst.toNat

end Allowance

/-- The tokens of one identifier, as of the last time they were counted. -/
structure Bucket where
  allowance : Allowance
  tokens : Binary64
  lastUpdate : Instant

namespace Bucket

/-- A bucket that holds as much as it can. -/
def full (a : Allowance) (now : Instant) : Bucket :=
  ⟨a, a.capacity, now⟩

/-- The tokens at an instant: those counted last, and those gained since, at most the burst. -/
def tokensAt (b : Bucket) (now : Instant) : Binary64 :=
  (b.tokens + b.lastUpdate.elapsedSeconds now * b.allowance.rate).clamp (.zero false)
    b.allowance.capacity

/-- The bucket with its tokens counted at an instant, which may lie before the last one. -/
def advance (b : Bucket) (now : Instant) : Bucket :=
  { b with tokens := b.tokensAt now, lastUpdate := now }

/-- Takes a token if a whole one is there, and says so. -/
def allow (b : Bucket) (now : Instant) : Bool × Bucket :=
  let b := b.advance now
  if Binary64.ofNat 1 ≤ b.tokens then
    (true, { b with tokens := b.tokens - .ofNat 1 })
  else
    (false, b)

/-- How long until a token is there: at once, after a wait, or never within reach. -/
def nextAvailable (b : Bucket) (now : Instant) : Option Duration :=
  let tokens := b.tokensAt now
  if Binary64.ofNat 1 ≤ tokens then some .zero
  else if b.allowance.rate.isZero then none
  else Duration.ofSeconds? ((.ofNat 1 - tokens) / b.allowance.rate)

/-- The bucket after calls at the given instants, one after another. -/
def replay (b : Bucket) (calls : List Instant) : Bucket :=
  calls.foldl (fun b now => (b.allow now).2) b

end Bucket
end Admission
