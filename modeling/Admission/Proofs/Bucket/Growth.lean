import Admission.Proofs.Bucket.Polling

/-!
# Growth of a count

A bucket that is left alone holds no less later on.  Each rounding keeps the order, a gain past
the range is past it later too, and holding at the burst keeps the order as well; so all that is
asked is that the counted seconds grow with the time that passed.

They do, but for one second.  Up to 63 bits of nanoseconds a bucket counts fractions of a second,
beyond them whole seconds; the bits run out in the middle of second 9223372036, and for the rest
of it the fraction that had been counted is lost again.  A bucket that is full by then cannot tell,
and one that is so slow that it is not loses a `2 ^ 31`st of its burst at most, for less than a
second.

* `Instant.FallsBack` — two instants on either side of the end of 63 bits, in one second;
* `Instant.countedSeconds_mono` — the counted seconds grow, unless they fall back;
* `Holds.refilled_le_refilled` — and so does the refilled count;
* `Bucket.tokensAt_le_tokensAt_later` — what it means for a bucket in use;
* `Bucket.token_lost_within_a_second` — a token that was there and is there no more.
-/

namespace Admission

open Binary64

/-- One token in about three centuries, of which one is held. -/
def Allowance.centuries : Allowance where
  rate := .ofRat (2 / 18446744073)
  burst := 1
  rate_finite := by decide +kernel
  rate_nonneg := by decide +kernel
  burst_pos := single_pos

/-! ## Counted seconds -/

namespace Instant

/-- Two instants in the second in which 63 bits of nanoseconds run out, one before that moment
and one after it. -/
def FallsBack (start now later : Instant) : Prop :=
  9223372036000000000 < start.nanosecondsTo now ∧
    start.nanosecondsTo now ≤ 9223372036854775807 ∧
    9223372036854775807 < start.nanosecondsTo later ∧
    start.nanosecondsTo later < 9223372037000000000

instance (start now later : Instant) : Decidable (start.FallsBack now later) :=
  inferInstanceAs (Decidable (_ ∧ _))

variable {start now later : Instant}

/-- Within 63 bits a whole number of seconds bounds the counted ones, if it bounds the rounded
nanoseconds. -/
theorem countedSeconds_le_natCast {m : ℕ} (hm : m < 2 ^ 53)
    (hnear : start.nanosecondsTo now ≤ 9223372036854775807)
    (h : nearest (start.nanosecondsTo now).toNat ≤ m * 1000000000) :
    start.countedSeconds now ≤ m := by
  have hnonneg : 0 ≤ nearest (start.nanosecondsTo now).toNat / 1000000000 :=
    div_nonneg (nearest_nonneg _) (by norm_num)
  have hquot : nearest (start.nanosecondsTo now).toNat / 1000000000 ≤ m := by
    rw [div_le_iff₀ (by norm_num)]
    exact h
  rw [countedSeconds, if_pos hnear]
  exact (onGrid_natCast hm).nearest_le hnonneg hquot

/-- The last whole second within 63 bits is a number of nanoseconds that 53 bits hold. -/
theorem onGrid_lastWholeSecond : OnGrid ((9223372036 : ℕ) * 1000000000) :=
  ⟨4503599626953125, 11, by norm_num, by norm_num, by norm_num⟩

/-- **The counted seconds grow**, unless they fall back. -/
theorem countedSeconds_mono (hlater : now.sinceEpoch ≤ later.sinceEpoch)
    (hgrows : ¬ start.FallsBack now later) :
    start.countedSeconds now ≤ start.countedSeconds later := by
  have hle : start.nanosecondsTo now ≤ start.nanosecondsTo later := by
    unfold nanosecondsTo
    omega
  have hnat : (start.nanosecondsTo now).toNat ≤ (start.nanosecondsTo later).toNat := by omega
  rcases le_or_gt (start.nanosecondsTo later) 9223372036854775807 with hnear | hfar
  · rw [countedSeconds, countedSeconds, if_pos hnear, if_pos (hle.trans hnear)]
    have hround := nearest_mono (Nat.cast_nonneg _) (Nat.cast_le (α := ℚ).2 hnat)
    refine nearest_mono (div_nonneg (nearest_nonneg _) (by norm_num)) ?_
    exact div_le_div_of_nonneg_right hround (by norm_num)
  · have hcut : start.countedSeconds later =
        ((start.nanosecondsTo later).toNat / 1000000000 : ℕ) := if_neg (not_le.2 hfar)
    rcases le_or_gt (start.nanosecondsTo now) 9223372036854775807 with hbefore | hafter
    · -- Either the earlier instant is not yet in the last second, or the later one is past it.
      have hsplit : start.nanosecondsTo now ≤ 9223372036000000000 ∨
          9223372037000000000 ≤ start.nanosecondsTo later := by
        unfold FallsBack at hgrows
        omega
      rcases hsplit with hearly | hpast
      · have hcast : ((start.nanosecondsTo now).toNat : ℚ) ≤ (9223372036 : ℕ) * 1000000000 := by
          have hnat : (start.nanosecondsTo now).toNat ≤ 9223372036 * 1000000000 := by omega
          exact_mod_cast hnat
        have hround := onGrid_lastWholeSecond.nearest_le (Nat.cast_nonneg _) hcast
        refine (countedSeconds_le_natCast (by norm_num) hbefore hround).trans ?_
        exact_mod_cast (countedSeconds_mem_of_lt hfar).1
      · have hround : nearest (start.nanosecondsTo now).toNat ≤ (9223372037 : ℕ) * 1000000000 := by
          refine (nearest_natCast_le (by omega)).trans ?_
          norm_num
        refine (countedSeconds_le_natCast (by norm_num) hbefore hround).trans ?_
        rw [hcut]
        have hwhole : 9223372037 ≤ (start.nanosecondsTo later).toNat / 1000000000 := by omega
        exact_mod_cast hwhole
    · rw [hcut, countedSeconds, if_neg (not_le.2 hafter)]
      exact_mod_cast Nat.div_le_div_right hnat

end Instant

namespace Bucket

variable {b : Bucket} {t : ℚ} {now later : Instant}

/-! ## The refilled count -/

/-- The refilled count grows with the counted seconds. -/
theorem refilled_mono (b : Bucket) (ht : 0 ≤ t)
    (h : b.lastUpdate.countedSeconds now ≤ b.lastUpdate.countedSeconds later) :
    b.refilled t now ≤ b.refilled t later := by
  have hcounted := b.lastUpdate.countedSeconds_nonneg now
  have hrate := b.allowance.exactRate_nonneg
  have hgain := nearest_mono (mul_nonneg hcounted hrate) (mul_le_mul_of_nonneg_right h hrate)
  have hsum := nearest_mono (add_nonneg ht (nearest_nonneg _)) (add_le_add_right hgain t)
  exact min_le_min_right _ hsum

/-- A bucket that fills within 63 bits of nanoseconds is full beyond them. -/
theorem Holds.refilled_eq_burst_of_far (h : b.Holds t)
    (hfills : (b.allowance.burst.toNat : ℚ) ≤ b.allowance.exactRate * 9223372036)
    (hfar : 9223372036854775807 < b.lastUpdate.nanosecondsTo later) :
    b.refilled t later = b.allowance.burst.toNat := by
  have hlong := (Instant.countedSeconds_mem_of_lt hfar).1
  have hgain : (b.allowance.burst.toNat : ℚ) ≤
      b.lastUpdate.countedSeconds later * b.allowance.exactRate := by
    have hbrought := mul_le_mul_of_nonneg_left hlong b.allowance.exactRate_nonneg
    linarith
  have hround := b.allowance.hasMagnitude_capacity.onGrid.le_nearest (Nat.cast_nonneg _) hgain
  exact refilled_eq_burst (hround.trans (le_add_of_nonneg_left h.nonneg))

/-- **A count that is left alone grows**, where the seconds do not fall back or the bucket is full
when they do. -/
theorem Holds.refilled_le_refilled (h : b.Holds t) (hlater : now.sinceEpoch ≤ later.sinceEpoch)
    (hfills : b.lastUpdate.FallsBack now later →
      (b.allowance.burst.toNat : ℚ) ≤ b.allowance.exactRate * 9223372036) :
    b.refilled t now ≤ b.refilled t later := by
  by_cases hfalls : b.lastUpdate.FallsBack now later
  · rw [h.refilled_eq_burst_of_far (hfills hfalls) hfalls.2.2.1]
    exact b.refilled_le_burst t now
  · exact b.refilled_mono h.nonneg (Instant.countedSeconds_mono hlater hfalls)

/-- **What falls back is little.**  On either side of the end of 63 bits the count is close to
what rate times time brings. -/
theorem Holds.refilled_le_add (h : b.Holds t) (hlater : now.sinceEpoch ≤ later.sinceEpoch) :
    b.refilled t now ≤ b.refilled t later + b.allowance.burst.toNat / 2 ^ 31 := by
  have hburst := b.allowance.one_le_burst
  by_cases hfalls : b.lastUpdate.FallsBack now later
  · obtain ⟨-, hnear, hfar, -⟩ := hfalls
    have hbefore := (abs_le.1 (b.abs_refilled_sub_le h.nonneg h.le_burst hnear)).2
    have hmargin : (0 : ℚ) ≤ b.allowance.burst.toNat / 2 ^ 32 := by positivity
    have hafter := (abs_le.1 ((b.refillsWithin_of_far h.nonneg h.le_burst
      hfar).abs_refilled_sub_le hmargin)).1
    have hexact : min (b.allowance.burst.toNat : ℚ)
          (t + b.allowance.exactRate * b.lastUpdate.forwardSeconds now) ≤
        min (b.allowance.burst.toNat : ℚ)
          (t + b.allowance.exactRate * b.lastUpdate.forwardSeconds later) := by
      have hforward : b.lastUpdate.forwardSeconds now ≤ b.lastUpdate.forwardSeconds later :=
        Instant.forwardSeconds_mono hlater
      have htime := mul_le_mul_of_nonneg_left hforward b.allowance.exactRate_nonneg
      exact min_le_min_left _ (add_le_add_right htime t)
    unfold Allowance.driftPerCall at hbefore
    linarith
  · have hgrows := b.refilled_mono h.nonneg (Instant.countedSeconds_mono hlater hfalls)
    linarith

/-! ## Buckets in use -/

/-- **Left alone, a bucket holds no less.**  For any bucket that calls have brought about and any
two instants in order, before or after its last call: unless both lie in the second in which 63
bits of nanoseconds run out, and the bucket is too slow to fill in that time, it holds at least as
much at the later one, and if a call would be admitted at the first it would be admitted then.
Even in that second a `2 ^ 31`st of the burst is all that it can lose. -/
theorem tokensAt_le_tokensAt_later (a : Allowance) (start : Instant) (calls : List Instant)
    {now later : Instant} (hlater : now.sinceEpoch ≤ later.sinceEpoch) :
    let b := (full a start).replay calls
    ((b.lastUpdate.FallsBack now later → (a.burst.toNat : ℚ) ≤ a.exactRate * 9223372036) →
        b.tokensAt now ≤ b.tokensAt later ∧
          ((b.allow now).1 = true → (b.allow later).1 = true)) ∧
      (b.tokensAt now).toRat ≤ (b.tokensAt later).toRat + a.burst.toNat / 2 ^ 31 := by
  intro b
  obtain ⟨t, ht⟩ := exists_holds_replay a start calls
  have hallowance : ((full a start).replay calls).allowance = a :=
    replay_allowance (full a start) calls
  refine ⟨?_, ?_⟩
  · intro hfills
    have hgrows : b.refilled t now ≤ b.refilled t later := by
      refine ht.refilled_le_refilled hlater ?_
      rw [hallowance]
      exact hfills
    refine ⟨((ht.tokensAt now).le_iff (ht.tokensAt later)).2 hgrows, ?_⟩
    intro hadmitted
    exact (ht.allow later).1.2 (((ht.allow now).1.1 hadmitted).trans hgrows)
  · have hloses := ht.refilled_le_add hlater
    rw [hallowance] at hloses
    rw [(ht.tokensAt now).toRat_eq, (ht.tokensAt later).toRat_eq]
    exact hloses

/-- Ten tokens a second, and the two nanoseconds around the end of 63 bits. -/
theorem tokensAt_le_tokensAt_later_of_tenths :
    let b := (full .tenASecond .epoch).replay [.epoch]
    let now : Instant := ⟨9223372036854775807, by decide⟩
    let later : Instant := ⟨9223372036854775808, by decide⟩
    now.sinceEpoch ≤ later.sinceEpoch ∧ b.lastUpdate.FallsBack now later ∧
      b.tokensAt now ≤ b.tokensAt later ∧ (b.allow later).1 = true := by
  intro b now later
  have hlater : now.sinceEpoch ≤ later.sinceEpoch := by decide
  have hfills : (Allowance.tenASecond.burst.toNat : ℚ) ≤
      Allowance.tenASecond.exactRate * 9223372036 := by decide +kernel
  obtain ⟨hgrows, hadmitted⟩ :=
    (tokensAt_le_tokensAt_later .tenASecond .epoch [.epoch] hlater).1 fun _ => hfills
  exact ⟨hlater, by decide +kernel, hgrows, hadmitted (by decide +kernel)⟩

/-- **A token can be lost within a second.**  A bucket that gains a token in 9223372036.5 seconds
has one a nanosecond before 63 bits run out, and has none a nanosecond later. -/
theorem token_lost_within_a_second :
    let b := (full .centuries .epoch).replay [.epoch]
    let now : Instant := ⟨9223372036854775807, by decide⟩
    let later : Instant := ⟨9223372036854775808, by decide⟩
    now.sinceEpoch ≤ later.sinceEpoch ∧ ¬ b.tokensAt now ≤ b.tokensAt later ∧
      (b.allow now).1 = true ∧ (b.allow later).1 = false := by
  decide +kernel

end Bucket

end Admission
