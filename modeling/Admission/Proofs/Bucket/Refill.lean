import Admission.Bucket
import Admission.Proofs.Binary64.Arithmetic
import Mathlib.Data.Nat.Cast.Order.Field

/-!
# What a bucket holds

`b.Holds t` says that the bucket holds exactly `t` tokens, a rational number between `0` and the
burst.  A full bucket holds its burst, and every call takes `Holds` to `Holds`: first the count
grows to `b.refilled t now`, four roundings of the exact count, and then a whole token is taken
off exactly.  So a bucket can be followed in the rational numbers.

* `hasMagnitude_elapsedSeconds` — the seconds that a bucket counts with;
* `Holds.tokensAt` — the refilled count, whatever overflows on the way;
* `Holds.allow` — a call admits exactly when a whole token is there, and takes it exactly;
* `refilled_le` — a refill gains little more than rate times time;
* `Holds.tokensAt_eq_capacity` — a refill that is long enough fills the bucket to the brim.
-/

namespace Admission

open Binary64

/-! ## Elapsed time -/

namespace Instant

/-- Seconds from one instant to a later one, exactly; none are counted backwards. -/
def forwardSeconds (start stop : Instant) : ℚ :=
  (start.nanosecondsTo stop).toNat / 1000000000

/-- The seconds that a bucket counts with: rounded twice within 63 bits of nanoseconds, cut to
whole seconds beyond. -/
def countedSeconds (start stop : Instant) : ℚ :=
  if start.nanosecondsTo stop ≤ 9223372036854775807 then
    nearest (nearest (start.nanosecondsTo stop).toNat / 1000000000)
  else ((start.nanosecondsTo stop).toNat / 1000000000 : ℕ)

theorem forwardSeconds_nonneg (start stop : Instant) : 0 ≤ start.forwardSeconds stop := by
  unfold forwardSeconds
  positivity

/-- Forward seconds add up along three instants in order. -/
theorem forwardSeconds_trans {start middle stop : Instant}
    (h₁ : start.sinceEpoch ≤ middle.sinceEpoch) (h₂ : middle.sinceEpoch ≤ stop.sinceEpoch) :
    start.forwardSeconds middle + middle.forwardSeconds stop = start.forwardSeconds stop := by
  have hsum : (start.nanosecondsTo middle).toNat + (middle.nanosecondsTo stop).toNat =
      (start.nanosecondsTo stop).toNat := by
    unfold nanosecondsTo
    omega
  have hcast : ((start.nanosecondsTo middle).toNat : ℚ) + (middle.nanosecondsTo stop).toNat =
      (start.nanosecondsTo stop).toNat := by
    exact_mod_cast hsum
  unfold forwardSeconds
  rw [← hcast, add_div]

theorem forwardSeconds_eq_zero {start stop : Instant} (h : stop.sinceEpoch ≤ start.sinceEpoch) :
    start.forwardSeconds stop = 0 := by
  have hback : (start.nanosecondsTo stop).toNat = 0 := by
    unfold nanosecondsTo
    omega
  rw [forwardSeconds, hback, Nat.cast_zero, zero_div]

theorem forwardSeconds_mono {start stop later : Instant}
    (h : stop.sinceEpoch ≤ later.sinceEpoch) :
    start.forwardSeconds stop ≤ start.forwardSeconds later := by
  rcases le_or_gt start.sinceEpoch stop.sinceEpoch with hstart | hstart
  · have hrest := stop.forwardSeconds_nonneg later
    linarith [forwardSeconds_trans hstart h]
  · rw [forwardSeconds_eq_zero hstart.le]
    exact start.forwardSeconds_nonneg later

/-- The calendar is short enough for its whole seconds to have 53 bits. -/
theorem nanosecondsTo_lt (start stop : Instant) :
    start.nanosecondsTo stop < 9007199254740992 * 1000000000 := by
  have hstart := start.covered
  have hstop := stop.covered
  unfold nanosecondsTo
  omega

/-- What 63 bits hold rounds to at most `2 ^ 63`. -/
theorem nearest_natCast_le {n : ℕ} (hn : n ≤ 9223372036854775807) :
    nearest n ≤ 2 ^ (63 : ℤ) := by
  refine (onGrid_two_zpow (by norm_num)).nearest_le (Nat.cast_nonneg n) ?_
  calc (n : ℚ) ≤ (9223372036854775807 : ℕ) := by exact_mod_cast hn
    _ ≤ 2 ^ (63 : ℤ) := by norm_num

theorem hasMagnitude_billion : (Binary64.ofNat 1000000000).HasMagnitude 1000000000 := by
  exact_mod_cast hasMagnitude_ofNat (n := 1000000000) (by norm_num)

/-- **The seconds that a bucket counts with.** -/
theorem hasMagnitude_elapsedSeconds (start stop : Instant) :
    (start.elapsedSeconds stop).HasMagnitude (start.countedSeconds stop) := by
  have hlt := start.nanosecondsTo_lt stop
  unfold elapsedSeconds countedSeconds
  dsimp only
  generalize start.nanosecondsTo stop = z at hlt
  rcases le_or_gt z 0 with hz | hz
  · have hnat : z.toNat = 0 := by omega
    rw [if_pos hz, if_pos (by omega), hnat]
    simpa [nearest_zero] using hasMagnitude_zero
  obtain ⟨n, rfl⟩ := Int.eq_ofNat_of_zero_le hz.le
  rw [if_neg (not_le.2 hz), Int.toNat_natCast]
  split_ifs with hbits
  · have hn : (n : ℚ) = ((n : ℤ) : ℚ) := (Int.cast_natCast n).symm
    have hround := nearest_natCast_le (n := n) (by omega)
    have hnum : (ofInt n).HasMagnitude (nearest n) := by
      rw [ofInt, ← hn, ofRat_of_nonneg (Nat.cast_nonneg n)]
      exact hasMagnitude_ofMagnitude (Nat.cast_nonneg n)
        (hround.trans_lt (two_zpow_lt (by norm_num)))
    rw [hnum.div hasMagnitude_billion (by norm_num)]
    have hquot : nearest (n : ℚ) / 1000000000 ≤ 2 ^ (63 : ℤ) :=
      (div_le_self (nearest_nonneg _) (by norm_num)).trans hround
    have hnonneg : 0 ≤ nearest (n : ℚ) / 1000000000 := div_nonneg (nearest_nonneg _) (by norm_num)
    exact hasMagnitude_ofMagnitude hnonneg
      (((onGrid_two_zpow (by norm_num)).nearest_le hnonneg hquot).trans_lt
        (two_zpow_lt (by norm_num)))
  · have hcut : ((n : ℤ) / 1000000000) = ((n / 1000000000 : ℕ) : ℤ) := by omega
    rw [ofInt, hcut, Int.cast_natCast]
    exact hasMagnitude_ofNat (by omega)

theorem countedSeconds_nonneg (start stop : Instant) : 0 ≤ start.countedSeconds stop :=
  (start.hasMagnitude_elapsedSeconds stop).nonneg

/-- Within 63 bits of nanoseconds the counted seconds are two roundings off. -/
theorem countedSeconds_mem {start stop : Instant}
    (h : start.nanosecondsTo stop ≤ 9223372036854775807) :
    start.forwardSeconds stop * (1 - 1 / 2 ^ 53) ^ 2 ≤ start.countedSeconds stop ∧
      start.countedSeconds stop ≤ start.forwardSeconds stop * (1 + 1 / 2 ^ 53) ^ 2 := by
  rw [countedSeconds, if_pos h, forwardSeconds]
  generalize (start.nanosecondsTo stop).toNat = n
  have hsmall : (2 : ℚ) ^ (-1022 : ℤ) ≤ 2 ^ (-31 : ℤ) := two_zpow_mono (by norm_num)
  norm_num1 at hsmall
  have hone : n ≠ 0 → (1 : ℚ) ≤ n := fun hn => by exact_mod_cast Nat.pos_of_ne_zero hn
  have hfirst := nearest_mem_of_normal (q := n) fun hn => by
    linarith [hone (by exact_mod_cast hn)]
  have hsecond := nearest_mem_of_normal (q := nearest n / 1000000000) fun hq => by
    have hn : n ≠ 0 := fun hn => hq (by simp [hn, nearest_zero])
    linarith [hone hn]
  constructor <;> linarith

/-- Beyond 63 bits of nanoseconds the counted seconds are cut, to no less than `2 ^ 63`
nanoseconds. -/
theorem countedSeconds_mem_of_lt {start stop : Instant}
    (h : 9223372036854775807 < start.nanosecondsTo stop) :
    9223372036 ≤ start.countedSeconds stop ∧
      start.countedSeconds stop ≤ start.forwardSeconds stop := by
  rw [countedSeconds, if_neg (not_le.2 h), forwardSeconds]
  constructor
  · have hle : 9223372036 ≤ (start.nanosecondsTo stop).toNat / 1000000000 := by omega
    exact_mod_cast hle
  · exact_mod_cast Nat.cast_div_le (α := ℚ)

/-- Beyond 63 bits of nanoseconds less than a second goes uncounted. -/
theorem forwardSeconds_le_countedSeconds_add_one {start stop : Instant}
    (h : 9223372036854775807 < start.nanosecondsTo stop) :
    start.forwardSeconds stop ≤ start.countedSeconds stop + 1 := by
  rw [countedSeconds, if_neg (not_le.2 h), forwardSeconds, div_le_iff₀ (by norm_num)]
  generalize (start.nanosecondsTo stop).toNat = n
  have hcut : n ≤ (n / 1000000000 + 1) * 1000000000 := by omega
  exact_mod_cast hcut

theorem countedSeconds_self (t : Instant) : t.countedSeconds t = 0 := by
  have hzero : t.nanosecondsTo t = 0 := Int.sub_self _
  rw [countedSeconds, hzero, if_pos (by decide), Int.toNat_zero, Nat.cast_zero, nearest_zero,
    zero_div, nearest_zero]

/-- The counted seconds are at most two roundings too many. -/
theorem countedSeconds_le (start stop : Instant) :
    start.countedSeconds stop ≤ start.forwardSeconds stop * (1 + 1 / 2 ^ 53) ^ 2 := by
  rcases le_or_gt (start.nanosecondsTo stop) 9223372036854775807 with h | h
  · exact (countedSeconds_mem h).2
  · have hnonneg := start.forwardSeconds_nonneg stop
    linarith [(countedSeconds_mem_of_lt h).2]

/-- Of a stretch of time below three centuries that has passed, all but two roundings is
counted. -/
theorem mul_le_countedSeconds {start stop : Instant} {x : ℚ}
    (h0 : 0 ≤ x) (hx : x ≤ start.forwardSeconds stop) (hmax : x ≤ 9223372036) :
    x * (1 - 1 / 2 ^ 53) ^ 2 ≤ start.countedSeconds stop := by
  rcases le_or_gt (start.nanosecondsTo stop) 9223372036854775807 with h | h
  · linarith [(countedSeconds_mem h).1]
  · have hcut : x * (1 - 1 / 2 ^ 53) ^ 2 ≤ x * 1 :=
      mul_le_mul_of_nonneg_left (by norm_num) h0
    linarith [(countedSeconds_mem_of_lt h).1]

end Instant

/-! ## The allowance -/

namespace Allowance

/-- The rate of an allowance as a rational number. -/
def exactRate (a : Allowance) : ℚ :=
  a.rate.toRat

/-- A rate is finite, and negative only as the negative zero. -/
theorem exists_rate (a : Allowance) :
    ∃ r : Finite, a.rate = .finite r ∧ r.magnitude = a.exactRate ∧
      (r.negative = true → r.magnitude = 0) := by
  have hfin := a.rate_finite
  have hnonneg := a.rate_nonneg
  unfold exactRate
  cases hr : a.rate with
  | nan => simp [hr, isFinite] at hfin
  | infinite s => simp [hr, isFinite] at hfin
  | finite r =>
    refine ⟨r, rfl, ?_⟩
    rw [hr] at hnonneg
    have hvalue : 0 ≤ r.value := by
      simpa [Finite.value, Finite.magnitude] using (finite_le_finite _ r).1 hnonneg
    have hmag := r.magnitude_nonneg
    cases hs : r.negative with
    | false => exact ⟨(Finite.value_of_nonneg hs).symm, fun h => by simp at h⟩
    | true =>
      have hneg : r.value = -r.magnitude := by simp [Finite.value, hs]
      exact ⟨by rw [toRat]; linarith, fun _ => by linarith⟩

theorem exactRate_nonneg (a : Allowance) : 0 ≤ a.exactRate := by
  obtain ⟨r, -, hr, -⟩ := a.exists_rate
  exact hr ▸ r.magnitude_nonneg

/-- Nothing is lost as time goes on. -/
theorem gain_nonneg (a : Allowance) (start stop : Instant) :
    0 ≤ a.exactRate * start.forwardSeconds stop :=
  mul_nonneg a.exactRate_nonneg (start.forwardSeconds_nonneg stop)

/-- The most that calls gain over so many forward seconds: rate times time, with three roundings
of that product, and for each call one rounding of a count that is at most the burst. -/
def gained (a : Allowance) (seconds : ℚ) (calls : ℕ) : ℚ :=
  a.exactRate * seconds * (1 + 1 / 2 ^ 51) + calls * a.burst.toNat / 2 ^ 52

theorem gained_nonneg (a : Allowance) {seconds : ℚ} (h : 0 ≤ seconds) (calls : ℕ) :
    0 ≤ a.gained seconds calls := by
  have htime : 0 ≤ a.exactRate * seconds := mul_nonneg a.exactRate_nonneg h
  have hrounds : (0 : ℚ) ≤ calls * a.burst.toNat := by positivity
  unfold gained
  linarith

/-- What calls gain adds up. -/
theorem gained_add (a : Allowance) (x y : ℚ) (m n : ℕ) :
    a.gained (x + y) (m + n) = a.gained x m + a.gained y n := by
  unfold gained
  push_cast
  ring

/-- More time and more calls gain more. -/
theorem gained_mono (a : Allowance) {x y : ℚ} {m n : ℕ} (hseconds : x ≤ y) (hcalls : m ≤ n) :
    a.gained x m ≤ a.gained y n := by
  have htime : a.exactRate * x ≤ a.exactRate * y :=
    mul_le_mul_of_nonneg_left hseconds a.exactRate_nonneg
  have hcast : (m : ℚ) ≤ n := by exact_mod_cast hcalls
  have hrounds : (m : ℚ) * a.burst.toNat ≤ n * a.burst.toNat :=
    mul_le_mul_of_nonneg_right hcast (Nat.cast_nonneg _)
  unfold gained
  linarith

theorem one_le_burst (a : Allowance) : (1 : ℚ) ≤ a.burst.toNat := by
  have h : 1 ≤ a.burst.toNat := a.burst_pos
  exact_mod_cast h

theorem hasMagnitude_capacity (a : Allowance) : a.capacity.HasMagnitude a.burst.toNat :=
  hasMagnitude_ofNat (a.burst.toNat_lt.trans (by norm_num))

end Allowance

/-! ## Exact counts -/

namespace Bucket

variable {b : Bucket} {t : ℚ}

/-- The bucket holds exactly so many tokens, at most its burst. -/
def Holds (b : Bucket) (t : ℚ) : Prop :=
  b.tokens.HasMagnitude t ∧ t ≤ b.allowance.burst.toNat

/-- What a bucket with so many tokens holds at an instant, each operation rounded once. -/
def refilled (b : Bucket) (t : ℚ) (now : Instant) : ℚ :=
  min (nearest (t + nearest (b.lastUpdate.countedSeconds now * b.allowance.exactRate)))
    b.allowance.burst.toNat

@[simp] theorem allow_allowance (b : Bucket) (now : Instant) :
    (b.allow now).2.allowance = b.allowance := by
  unfold allow
  dsimp only
  split_ifs <;> rfl

@[simp] theorem allow_lastUpdate (b : Bucket) (now : Instant) :
    (b.allow now).2.lastUpdate = now := by
  unfold allow
  dsimp only
  split_ifs <;> rfl

theorem Holds.nonneg (h : b.Holds t) : 0 ≤ t :=
  h.1.nonneg

theorem Holds.le_burst (h : b.Holds t) : t ≤ b.allowance.burst.toNat :=
  h.2

/-- A full bucket holds its burst. -/
theorem holds_full (a : Allowance) (now : Instant) : (full a now).Holds a.burst.toNat :=
  ⟨a.hasMagnitude_capacity, le_refl _⟩

/-- **The refilled count**, also where the product or the sum is past the range. -/
theorem Holds.tokensAt (h : b.Holds t) (now : Instant) :
    (b.tokensAt now).HasMagnitude (b.refilled t now) := by
  obtain ⟨r, hr, hmag, hneg⟩ := b.allowance.exists_rate
  have hsec := b.lastUpdate.hasMagnitude_elapsedSeconds now
  have hgain : 0 ≤ b.lastUpdate.countedSeconds now * b.allowance.exactRate :=
    mul_nonneg hsec.nonneg b.allowance.exactRate_nonneg
  have hsum : b.tokens + b.lastUpdate.elapsedSeconds now * b.allowance.rate =
      ofMagnitude false
        (t + nearest (b.lastUpdate.countedSeconds now * b.allowance.exactRate)) := by
    rw [hr, hsec.mul r, hmag]
    cases hs : r.negative with
    | false => exact h.1.add_ofMagnitude hgain
    | true =>
      -- A negative rate is the negative zero, and so is the gain.
      have hrate : b.allowance.exactRate = 0 := hmag ▸ hneg hs
      have hzero : ofMagnitude true 0 = zero true := by simp [ofMagnitude]
      rw [hrate, mul_zero, hzero, h.1.add_zero, nearest_zero, add_zero, ← h.1.eq_ofMagnitude]
  rw [Bucket.tokensAt, hsum]
  exact hasMagnitude_clamp (add_nonneg h.nonneg (nearest_nonneg _))
    b.allowance.hasMagnitude_capacity

theorem refilled_le_burst (b : Bucket) (t : ℚ) (now : Instant) :
    b.refilled t now ≤ b.allowance.burst.toNat :=
  min_le_right _ _

theorem burst_le (b : Bucket) : (b.allowance.burst.toNat : ℚ) ≤ 2 ^ 53 := by
  have h : b.allowance.burst.toNat < 2 ^ 53 := b.allowance.burst.toNat_lt.trans (by norm_num)
  exact_mod_cast h.le

theorem Holds.advance (h : b.Holds t) (now : Instant) :
    (b.advance now).Holds (b.refilled t now) :=
  ⟨h.tokensAt now, b.refilled_le_burst t now⟩

/-- A whole token that is there is taken off the refilled count without rounding. -/
theorem Holds.tokensAt_sub_one (h : b.Holds t) {now : Instant} (hwhole : 1 ≤ b.refilled t now) :
    (b.tokensAt now - Binary64.ofNat 1).HasMagnitude (b.refilled t now - 1) := by
  have hcount := h.tokensAt now
  have hle := (b.refilled_le_burst t now).trans b.burst_le
  rw [hcount.sub hasMagnitude_one hwhole]
  exact (hcount.onGrid.sub_one hwhole hle).hasMagnitude (sub_nonneg.2 hwhole)
    ((sub_le_self _ zero_le_one).trans_lt hcount.lt)

/-- **A call admits exactly when a whole token is there, and takes it exactly.**  A denied call
takes nothing. -/
theorem Holds.allow (h : b.Holds t) (now : Instant) :
    ((b.allow now).1 = true ↔ 1 ≤ b.refilled t now) ∧
      (b.allow now).2.Holds
        (if 1 ≤ b.refilled t now then b.refilled t now - 1 else b.refilled t now) := by
  have htest : Binary64.ofNat 1 ≤ (b.advance now).tokens ↔ 1 ≤ b.refilled t now :=
    hasMagnitude_one.le_iff (h.tokensAt now)
  unfold Bucket.allow
  dsimp only
  by_cases hwhole : 1 ≤ b.refilled t now
  · rw [if_pos (htest.2 hwhole), if_pos hwhole]
    exact ⟨by simp [hwhole], h.tokensAt_sub_one hwhole,
      (sub_le_self _ zero_le_one).trans (b.refilled_le_burst t now)⟩
  · rw [if_neg (fun hc => hwhole (htest.1 hc)), if_neg hwhole]
    exact ⟨by simp [hwhole], h.advance now⟩

/-! ## Bounds on a refill -/

/-- **A refill gains little more than rate times time.** -/
theorem refilled_le (b : Bucket) {t : ℚ} (ht : 0 ≤ t) (now : Instant) :
    b.refilled t now ≤ t + b.allowance.gained (b.lastUpdate.forwardSeconds now) 1 := by
  have hburst := b.allowance.one_le_burst
  have hrate := b.allowance.exactRate_nonneg
  have hseconds := b.lastUpdate.countedSeconds_le now
  have hforward := b.lastUpdate.forwardSeconds_nonneg now
  have hcounted := b.lastUpdate.countedSeconds_nonneg now
  unfold refilled Allowance.gained
  rw [Nat.cast_one, one_mul]
  generalize b.lastUpdate.countedSeconds now = e at *
  generalize b.lastUpdate.forwardSeconds now = d at *
  generalize b.allowance.exactRate = r at *
  generalize (b.allowance.burst.toNat : ℚ) = c at *
  have hsubnormal : (2 : ℚ) ^ (-1075 : ℤ) ≤ 2 ^ (-54 : ℤ) := two_zpow_mono (by norm_num)
  norm_num1 at hsubnormal
  have hgain : nearest (e * r) ≤ r * d * (1 + 1 / 2 ^ 51) + 2 ^ (-1075 : ℤ) := by
    have hround := (abs_le.1 (abs_nearest_sub_le (mul_nonneg hcounted hrate))).2
    have hprod : e * r ≤ r * d * (1 + 1 / 2 ^ 53) ^ 2 := by
      have := mul_le_mul_of_nonneg_right hseconds hrate
      linarith
    have hrd : 0 ≤ r * d := mul_nonneg hrate hforward
    linarith
  rcases le_or_gt (t + nearest (e * r)) c with hle | hgt
  · have hround := (abs_le.1 (abs_nearest_sub_le (add_nonneg ht (nearest_nonneg (e * r))))).2
    have hmin := min_le_left (nearest (t + nearest (e * r))) c
    linarith
  · have hmin := min_le_right (nearest (t + nearest (e * r))) c
    linarith

/-- A count that reaches the burst with its gain is the burst. -/
theorem refilled_eq_burst {b : Bucket} {t : ℚ} {now : Instant}
    (h : b.allowance.burst.toNat ≤
      t + nearest (b.lastUpdate.countedSeconds now * b.allowance.exactRate)) :
    b.refilled t now = b.allowance.burst.toNat :=
  min_eq_right (b.allowance.hasMagnitude_capacity.onGrid.le_nearest (Nat.cast_nonneg _) h)

/-- **A refill that is long enough fills the bucket to the brim.** -/
theorem Holds.tokensAt_eq_capacity (h : b.Holds t) {now : Instant}
    (hgain : b.allowance.burst.toNat ≤
      b.lastUpdate.countedSeconds now * b.allowance.exactRate) :
    b.tokensAt now = b.allowance.capacity := by
  have hgrid := b.allowance.hasMagnitude_capacity.onGrid
  have hround := hgrid.le_nearest (Nat.cast_nonneg _) hgain
  have hnonneg := h.nonneg
  have hcount := h.tokensAt now
  rw [refilled_eq_burst (by linarith)] at hcount
  exact hcount.eq b.allowance.hasMagnitude_capacity

/-- A refill that brings nothing leaves the count as it is. -/
theorem Holds.refilled_of_no_gain (h : b.Holds t) {now : Instant}
    (hgain : b.lastUpdate.countedSeconds now * b.allowance.exactRate = 0) :
    b.refilled t now = t := by
  rw [refilled, hgain, nearest_zero, add_zero, h.1.onGrid.nearest_eq, min_eq_left h.le_burst]

/-- A bucket that has just been counted holds what was counted. -/
theorem Holds.tokensAt_lastUpdate (h : b.Holds t) :
    (b.tokensAt b.lastUpdate).HasMagnitude t := by
  have hcount := h.tokensAt b.lastUpdate
  rwa [h.refilled_of_no_gain (by rw [Instant.countedSeconds_self, zero_mul])] at hcount

theorem refilled_full (a : Allowance) (start now : Instant) :
    (full a start).refilled a.burst.toNat now = a.burst.toNat :=
  refilled_eq_burst (b := full a start) (le_add_of_nonneg_right (nearest_nonneg _))

/-- A full bucket stays full. -/
theorem full_tokensAt (a : Allowance) (start now : Instant) :
    (full a start).tokensAt now = a.capacity := by
  have hcount := (holds_full a start).tokensAt now
  rw [refilled_full] at hcount
  exact hcount.eq a.hasMagnitude_capacity

/-- A full bucket admits its first call, whenever it comes. -/
theorem allow_full (a : Allowance) (start now : Instant) : ((full a start).allow now).1 = true := by
  obtain ⟨hgranted, -⟩ := (holds_full a start).allow now
  rw [hgranted, refilled_full]
  exact a.one_le_burst

/-- A call sees of a bucket only what it holds at the instant of the call. -/
theorem allow_congr {b c : Bucket} {now : Instant} (h : b.advance now = c.advance now) :
    b.allow now = c.allow now := by
  unfold Bucket.allow
  rw [h]

end Bucket

end Admission
