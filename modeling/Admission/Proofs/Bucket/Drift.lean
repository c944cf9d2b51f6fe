import Admission.Proofs.Bucket.Conservation
import Mathlib.Algebra.Order.Group.MinMax
import Mathlib.Data.List.Chain

/-!
# Drift of a bucket

Beside every bucket runs an exact account in the rational numbers: it grows by rate times time,
is held at the burst, and gives a token away whenever the bucket does.  A call rounds four times,
and its error against the account is at most a `2 ^ 49`th of the burst: a gain too large for that
fills the bucket and the account alike.  What the bucket was ahead or behind before the call is
carried over and never amplified, because holding at the burst brings two counts closer.  So the
error grows at most linearly with the calls, in either direction.

Time must be counted to the nanosecond for this: beyond 63 bits of nanoseconds a bucket counts
whole seconds, and may lose almost one of them.

* `Allowance.account`, `Bucket.drift` — the account, and what the bucket is ahead of it;
* `refillsWithin_of_gain`, `RefillsWithin.abs_refilled_sub_le` — the error of one refill;
* `Holds.allow_settle` — one call of a bucket against the same call of its account;
* `drift_concat_le` — what one more call adds to the drift of a run;
* `drift_of_near` — the drift after each call of a run.
-/

namespace Admission

open Binary64

/-- Two instants less than `2 ^ 63` nanoseconds apart, whichever is the earlier. -/
def Instant.Near (start stop : Instant) : Prop :=
  (start.nanosecondsTo stop).natAbs < 9223372036854775808

instance (start stop : Instant) : Decidable (start.Near stop) :=
  inferInstanceAs (Decidable (_ < _))

theorem Instant.Near.le {start stop : Instant} (h : start.Near stop) :
    start.nanosecondsTo stop ≤ 9223372036854775807 := by
  unfold Near at h
  omega

/-! ## The exact account -/

namespace Allowance

/-- The account after a call: it grows with the time since it was last settled, up to the burst,
and an admitted call takes a token. -/
def settle (a : Allowance) (account : ℚ × Instant) (call : Instant × Bool) : ℚ × Instant :=
  (min (a.burst.toNat : ℚ) (account.1 + a.exactRate * account.2.forwardSeconds call.1) -
    (if call.2 then 1 else 0), call.1)

/-- The exact account of a bucket that started full, after calls with the answers they got, and
when it was last settled. -/
def account (a : Allowance) (start : Instant) (calls : List (Instant × Bool)) : ℚ × Instant :=
  calls.foldl a.settle (a.burst.toNat, start)

/-- The most that one call adds to the drift of a bucket. -/
def driftPerCall (a : Allowance) : ℚ :=
  a.burst.toNat / 2 ^ 49

theorem driftPerCall_nonneg (a : Allowance) : 0 ≤ a.driftPerCall := by
  unfold driftPerCall
  positivity

end Allowance

namespace Bucket

/-- Calls at the given instants with the answers of a bucket that started full. -/
def callsFrom (a : Allowance) (start : Instant) (calls : List Instant) : List (Instant × Bool) :=
  calls.zip ((full a start).answers calls)

/-- What the stored count of a bucket that started full is ahead of its exact account. -/
def drift (a : Allowance) (start : Instant) (calls : List Instant) : ℚ :=
  ((full a start).replay calls).tokens.toRat - (a.account start (callsFrom a start calls)).1

variable {b : Bucket} {t : ℚ}

/-! ## One call -/

/-- Whether a refill of so many tokens is within a margin of what the exact account gains: both
reach the burst, or the sums are so close before they are held at it. -/
def RefillsWithin (b : Bucket) (t : ℚ) (now : Instant) (margin : ℚ) : Prop :=
  ((b.allowance.burst.toNat : ℚ) ≤
        t + nearest (b.lastUpdate.countedSeconds now * b.allowance.exactRate) ∧
      (b.allowance.burst.toNat : ℚ) ≤
        t + b.allowance.exactRate * b.lastUpdate.forwardSeconds now) ∨
    |nearest (t + nearest (b.lastUpdate.countedSeconds now * b.allowance.exactRate)) -
        (t + b.allowance.exactRate * b.lastUpdate.forwardSeconds now)| ≤ margin

theorem RefillsWithin.mono {margin more : ℚ} {now : Instant} (h : b.RefillsWithin t now margin)
    (hle : margin ≤ more) : b.RefillsWithin t now more := by
  rcases h with hfills | herror
  · exact .inl hfills
  · exact .inr (herror.trans hle)

/-- **The error of one refill**, whose gain is off by a part of it.  A gain of more than two
bursts fills the bucket exactly, and a smaller one is rounded by little. -/
theorem refillsWithin_of_gain (b : Bucket) (ht : 0 ≤ t) (hburst : t ≤ b.allowance.burst.toNat)
    {now : Instant} {part : ℚ} (hpart : 0 ≤ part) (hquarter : part ≤ 1 / 4)
    (hgain : |b.lastUpdate.countedSeconds now * b.allowance.exactRate -
        b.allowance.exactRate * b.lastUpdate.forwardSeconds now| ≤
      part * (b.allowance.exactRate * b.lastUpdate.forwardSeconds now)) :
    b.RefillsWithin t now (b.allowance.burst.toNat * (2 * part + 1 / 2 ^ 50)) := by
  have hone := b.allowance.one_le_burst
  have hexact := b.allowance.gain_nonneg b.lastUpdate now
  have hcounted : 0 ≤ b.lastUpdate.countedSeconds now * b.allowance.exactRate :=
    mul_nonneg (b.lastUpdate.countedSeconds_nonneg now) b.allowance.exactRate_nonneg
  unfold RefillsWithin
  generalize b.lastUpdate.countedSeconds now * b.allowance.exactRate = counted at *
  generalize b.allowance.exactRate * b.lastUpdate.forwardSeconds now = exact at *
  generalize (b.allowance.burst.toNat : ℚ) = c at *
  have hsubnormal : (2 : ℚ) ^ (-1075 : ℤ) ≤ 2 ^ (-60 : ℤ) := two_zpow_mono (by norm_num)
  norm_num1 at hsubnormal
  obtain ⟨hlow, hhigh⟩ := abs_le.1 hgain
  have hround := abs_le.1 (abs_nearest_sub_le hcounted)
  have hloss : part * exact ≤ exact / 4 := by
    have hle := mul_le_mul_of_nonneg_right hquarter hexact
    linarith
  rcases le_or_gt exact (2 * c) with hsmall | hlarge
  · right
    have hshare : part * exact ≤ part * (2 * c) := mul_le_mul_of_nonneg_left hsmall hpart
    have hsum := abs_le.1 (abs_nearest_sub_le (add_nonneg ht (nearest_nonneg counted)))
    rw [abs_le]
    constructor <;> linarith
  · left
    constructor <;> linarith

/-- Time that is counted to the nanosecond is rounded twice, so that its gain is off by at most
three parts in `2 ^ 53`. -/
theorem refillsWithin_of_near (b : Bucket) (ht : 0 ≤ t) (hburst : t ≤ b.allowance.burst.toNat)
    {now : Instant} (hnear : b.lastUpdate.nanosecondsTo now ≤ 9223372036854775807) :
    b.RefillsWithin t now b.allowance.driftPerCall := by
  have hone := b.allowance.one_le_burst
  obtain ⟨hlow, hhigh⟩ := Instant.countedSeconds_mem hnear
  have hexact := b.allowance.gain_nonneg b.lastUpdate now
  have hgain : |b.lastUpdate.countedSeconds now * b.allowance.exactRate -
        b.allowance.exactRate * b.lastUpdate.forwardSeconds now| ≤
      3 / 2 ^ 53 * (b.allowance.exactRate * b.lastUpdate.forwardSeconds now) := by
    have h₁ := mul_le_mul_of_nonneg_right hlow b.allowance.exactRate_nonneg
    have h₂ := mul_le_mul_of_nonneg_right hhigh b.allowance.exactRate_nonneg
    rw [abs_le]
    constructor <;> linarith
  refine (b.refillsWithin_of_gain ht hburst (by norm_num) (by norm_num) hgain).mono ?_
  unfold Allowance.driftPerCall
  linarith

/-- Holding a refill and the account at the burst brings them no further apart. -/
theorem RefillsWithin.abs_refilled_sub_le {margin : ℚ} {now : Instant}
    (h : b.RefillsWithin t now margin) (hmargin : 0 ≤ margin) :
    |b.refilled t now - min (b.allowance.burst.toNat : ℚ)
        (t + b.allowance.exactRate * b.lastUpdate.forwardSeconds now)| ≤ margin := by
  rcases h with ⟨hfills, hexact⟩ | herror
  · rw [refilled_eq_burst hfills, min_eq_left hexact, sub_self, abs_zero]
    exact hmargin
  · rw [refilled, min_comm (b.allowance.burst.toNat : ℚ)]
    refine (abs_min_sub_min_le_max _ _ _ _).trans ?_
    rw [sub_self, abs_zero]
    exact max_le herror hmargin

/-- The error of one refill that is held at the burst. -/
theorem abs_refilled_sub_le (b : Bucket) (ht : 0 ≤ t) (hburst : t ≤ b.allowance.burst.toNat)
    {now : Instant} (hnear : b.lastUpdate.nanosecondsTo now ≤ 9223372036854775807) :
    |b.refilled t now - min (b.allowance.burst.toNat : ℚ)
        (t + b.allowance.exactRate * b.lastUpdate.forwardSeconds now)| ≤
      b.allowance.driftPerCall :=
  (b.refillsWithin_of_near ht hburst hnear).abs_refilled_sub_le b.allowance.driftPerCall_nonneg

/-- Holding two counts at a bound after the same gain brings them no further apart. -/
theorem min_add_sub_min_add_le (c gain x y : ℚ) :
    min c (x + gain) - min c (y + gain) ≤ max 0 (x - y) := by
  rcases le_total x y with h | h
  · have hmin : min c (x + gain) ≤ min c (y + gain) := min_le_min le_rfl (by linarith)
    have hmax := le_max_left 0 (x - y)
    linarith
  · have hmax := le_max_right 0 (x - y)
    rcases le_total c (y + gain) with hc | hc
    · rw [min_eq_left hc, min_eq_left (by linarith)]
      linarith
    · rw [min_eq_right hc]
      linarith [min_le_right c (x + gain)]

/-- **One call against the account.**  Neither gets further ahead of the other than it was, but
for the error of the refill. -/
theorem Holds.allow_settle (h : b.Holds t) {now : Instant}
    (hnear : b.lastUpdate.nanosecondsTo now ≤ 9223372036854775807) (exact : ℚ) :
    ∃ left, (b.allow now).2.Holds left ∧
      left - (b.allowance.settle (exact, b.lastUpdate) (now, (b.allow now).1)).1 ≤
          max 0 (t - exact) + b.allowance.driftPerCall ∧
      (b.allowance.settle (exact, b.lastUpdate) (now, (b.allow now).1)).1 - left ≤
          max 0 (exact - t) + b.allowance.driftPerCall := by
  obtain ⟨left, hleft, hkept⟩ := h.allow_conserves now
  obtain ⟨hlow, hhigh⟩ := abs_le.1 (b.abs_refilled_sub_le h.nonneg h.le_burst hnear)
  have hahead := min_add_sub_min_add_le b.allowance.burst.toNat
    (b.allowance.exactRate * b.lastUpdate.forwardSeconds now) t exact
  have hbehind := min_add_sub_min_add_le b.allowance.burst.toNat
    (b.allowance.exactRate * b.lastUpdate.forwardSeconds now) exact t
  refine ⟨left, hleft, ?_⟩
  -- The bucket and the account give away the same token, or none.
  unfold Allowance.settle
  constructor <;> linarith

/-! ## Runs of calls -/

theorem Holds.toRat_tokens (h : b.Holds t) : b.tokens.toRat = t :=
  h.1.toRat_eq

theorem Holds.isFinite_tokens (h : b.Holds t) : b.tokens.isFinite = true := by
  obtain ⟨⟨x, hx, -, -⟩, -⟩ := h
  rw [hx, isFinite]

theorem callsFrom_concat (a : Allowance) (start : Instant) (calls : List Instant) (now : Instant) :
    callsFrom a start (calls ++ [now]) =
      callsFrom a start calls ++ [(now, (((full a start).replay calls).allow now).1)] := by
  rw [callsFrom, answers_concat, List.zip_append (length_answers _ calls).symm]
  rfl

/-- The last instant of a run, or its start, is when the bucket was last counted. -/
theorem getLast?_eq_lastUpdate (a : Allowance) (start : Instant) (calls : List Instant) :
    (start :: calls).getLast? = some ((full a start).replay calls).lastUpdate := by
  rcases List.eq_nil_or_concat' calls with rfl | ⟨earlier, now, rfl⟩
  · rfl
  · rw [replay_concat, allow_lastUpdate, ← List.cons_append, List.getLast?_concat]

/-- The account is settled whenever the bucket is counted. -/
theorem account_lastUpdate (a : Allowance) (start : Instant) (calls : List Instant) :
    (a.account start (callsFrom a start calls)).2 = ((full a start).replay calls).lastUpdate := by
  rcases List.eq_nil_or_concat' calls with rfl | ⟨earlier, now, rfl⟩
  · rfl
  · rw [callsFrom_concat, Allowance.account, List.foldl_append, replay_concat, allow_lastUpdate]
    rfl

/-- A bucket and its account both start full. -/
theorem drift_nil (a : Allowance) (start : Instant) : drift a start [] = 0 := by
  show (full a start).tokens.toRat - a.burst.toNat = 0
  rw [(holds_full a start).toRat_tokens, sub_self]

/-- **What one call adds to the drift.** -/
theorem drift_concat_le (a : Allowance) (start : Instant) (earlier : List Instant) {now : Instant}
    (hnear : ((full a start).replay earlier).lastUpdate.Near now) :
    drift a start (earlier ++ [now]) ≤ max 0 (drift a start earlier) + a.driftPerCall ∧
      -drift a start (earlier ++ [now]) ≤ max 0 (-drift a start earlier) + a.driftPerCall := by
  obtain ⟨t, ht⟩ := exists_holds_replay a start earlier
  have hallowance : ((full a start).replay earlier).allowance = a :=
    replay_allowance (full a start) earlier
  obtain ⟨left, hleft, hahead, hbehind⟩ :=
    ht.allow_settle hnear.le (a.account start (callsFrom a start earlier)).1
  have hsettled : a.account start (callsFrom a start (earlier ++ [now])) =
      a.settle ((a.account start (callsFrom a start earlier)).1,
        ((full a start).replay earlier).lastUpdate)
        (now, (((full a start).replay earlier).allow now).1) := by
    rw [callsFrom_concat, ← account_lastUpdate, Allowance.account, List.foldl_append]
    rfl
  rw [hallowance] at hahead hbehind
  unfold drift
  rw [hsettled, replay_concat, hleft.toRat_tokens, ht.toRat_tokens, neg_sub, neg_sub]
  exact ⟨hahead, hbehind⟩

/-- The drift is at most the sum of what the calls added to it. -/
theorem abs_drift_le (a : Allowance) (start : Instant) {calls : List Instant}
    (hnear : (start :: calls).IsChain Instant.Near) :
    |drift a start calls| ≤ calls.length * a.driftPerCall := by
  have hcall := a.driftPerCall_nonneg
  induction calls using List.reverseRecOn with
  | nil =>
    rw [drift_nil, abs_zero]
    positivity
  | append_singleton earlier now ih =>
    rw [← List.cons_append, List.isChain_append] at hnear
    obtain ⟨hearlier, -, hlast⟩ := hnear
    have hstep := hlast _ (getLast?_eq_lastUpdate a start earlier) now rfl
    obtain ⟨hahead, hbehind⟩ := drift_concat_le a start earlier hstep
    obtain ⟨hlow, hhigh⟩ := abs_le.1 (ih hearlier)
    have hsum : 0 ≤ (earlier.length : ℚ) * a.driftPerCall := by positivity
    have hmax : max 0 (drift a start earlier) ≤ earlier.length * a.driftPerCall :=
      max_le hsum hhigh
    have hmin : max 0 (-drift a start earlier) ≤ earlier.length * a.driftPerCall :=
      max_le hsum (by linarith)
    rw [List.length_append, List.length_singleton, abs_le]
    push_cast
    constructor <;> linarith

/-- **Bounded drift.**  As long as successive instants of a run, its start included, are less than
`2 ^ 63` nanoseconds apart, the stored count is finite after each call and off the exact account
by at most a `2 ^ 49`th of the burst for each call so far; and each call puts the bucket at most
that much further ahead, or further behind. -/
theorem drift_of_near (a : Allowance) (start : Instant) {calls : List Instant}
    (hnear : (start :: calls).IsChain Instant.Near) {i : ℕ} (hi : i ≤ calls.length) :
    ((full a start).replay (calls.take i)).tokens.isFinite = true ∧
      |drift a start (calls.take i)| ≤ i * a.burst.toNat / 2 ^ 49 ∧
      (i < calls.length →
        drift a start (calls.take (i + 1)) ≤
            max 0 (drift a start (calls.take i)) + a.burst.toNat / 2 ^ 49 ∧
          -drift a start (calls.take (i + 1)) ≤
            max 0 (-drift a start (calls.take i)) + a.burst.toNat / 2 ^ 49) := by
  obtain ⟨t, ht⟩ := exists_holds_replay a start (calls.take i)
  refine ⟨ht.isFinite_tokens, ?_, ?_⟩
  · have hdrift := abs_drift_le a start (hnear.take (i + 1))
    rw [List.length_take_of_le hi, Allowance.driftPerCall] at hdrift
    linarith
  · intro hlt
    have hsplit : calls.take (i + 1) = calls.take i ++ [calls[i]] :=
      (List.take_concat_get' calls i hlt).symm
    have hprefix : (start :: calls.take i ++ [calls[i]]).IsChain Instant.Near := by
      rw [List.cons_append, ← hsplit]
      exact hnear.take (i + 2)
    have hlast := (List.isChain_append.1 hprefix).2.2 _
      (getLast?_eq_lastUpdate a start (calls.take i)) calls[i] rfl
    rw [hsplit]
    exact drift_concat_le a start (calls.take i) hlast

/-- Three tokens a second, with calls at tenths of a second that are no binary fractions, one of
them back in time. -/
theorem drift_of_near_of_tenths :
    let a : Allowance := ⟨.ofNat 3, 2, by decide +kernel, by decide +kernel, by decide⟩
    let calls : List Instant :=
      [⟨100000000, by decide⟩, ⟨200000000, by decide⟩, ⟨-700000000, by decide⟩,
        ⟨-600000000, by decide⟩]
    (Instant.epoch :: calls).IsChain Instant.Near ∧ 3 < calls.length ∧
      ((full a .epoch).replay (calls.take 3)).tokens.isFinite = true ∧
      |drift a .epoch (calls.take 3)| ≤ 3 * 2 / 2 ^ 49 ∧
      drift a .epoch (calls.take 4) ≤ max 0 (drift a .epoch (calls.take 3)) + 2 / 2 ^ 49 := by
  intro a calls
  have hnear : (Instant.epoch :: calls).IsChain Instant.Near := by decide
  have hlt : 3 < calls.length := by decide
  obtain ⟨hfinite, hdrift, hstep⟩ := drift_of_near a .epoch hnear hlt.le
  exact ⟨hnear, hlt, hfinite, hdrift, (hstep hlt).1⟩

end Bucket
end Admission
