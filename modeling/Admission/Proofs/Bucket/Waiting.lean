import Admission.Proofs.Bucket.Polling

/-!
# Waiting for a token

A caller that is told how long to wait is told a whole number of nanoseconds: what is missing of
a token, divided by the rate, both rounded, and then the nearest nanosecond, which may be the one
before.  The refill at the end of the wait rounds on its own.  So the wait is right up to a
`grace`: a nanosecond, a `2 ^ 48`th of the time that a token takes, and a second where a bucket
was left alone for more than 63 bits of nanoseconds and counts whole seconds.

Close to a whole token the count is followed more finely than by the burst: below a token all
four roundings are roundings of numbers that are little more than one.

* `Holds.min_one_refilled_le`, `Holds.le_refilled_of_lt_one` — a refill against rate times time,
  where it decides about one token;
* `Holds.nextAvailable` — what is advertised, as a rational number;
* `Bucket.grace` — how far the advertised wait may be off;
* `Bucket.wait_within_grace` — after the wait and the grace a call is admitted, and before the
  wait by more than the grace it is denied;
* `Bucket.advertised_wait_too_short` — a call right after the advertised wait that is denied.
-/

namespace Admission

open Binary64

namespace Allowance

theorem three_finite : (ofNat 3).isFinite = true := by
  decide +kernel

theorem three_nonneg : zero false ≤ ofNat 3 := by
  decide +kernel

/-- Three tokens a second, of which one is held. -/
def threeASecond : Allowance :=
  ⟨.ofNat 3, 1, three_finite, three_nonneg, single_pos⟩

end Allowance

/-- The seconds of a duration, exactly. -/
def Duration.exactSeconds (d : Duration) : ℚ :=
  d.nanoseconds / 1000000000

theorem Duration.exactSeconds_zero : Duration.zero.exactSeconds = 0 := by
  simp [exactSeconds, zero]

/-- The most seconds that a bucket leaves uncounted between two instants, roundings apart. -/
def Instant.uncounted (start stop : Instant) : ℚ :=
  if start.nanosecondsTo stop ≤ 9223372036854775807 then 0 else 1

namespace Instant

theorem uncounted_nonneg (start stop : Instant) : 0 ≤ start.uncounted stop := by
  unfold uncounted
  split_ifs <;> norm_num

/-- A longer time leaves no less uncounted. -/
theorem uncounted_mono {start stop later : Instant} (h : stop.sinceEpoch ≤ later.sinceEpoch) :
    start.uncounted stop ≤ start.uncounted later := by
  unfold uncounted nanosecondsTo
  split_ifs
  · exact le_refl _
  · norm_num
  · omega
  · exact le_refl _

/-- All but two roundings, and what is uncounted, is counted. -/
theorem le_countedSeconds (start stop : Instant) :
    (start.forwardSeconds stop - start.uncounted stop) * (1 - 1 / 2 ^ 53) ^ 2 ≤
      start.countedSeconds stop := by
  unfold uncounted
  split_ifs with hnear
  · rw [sub_zero]
    exact (countedSeconds_mem hnear).1
  · have hcut := forwardSeconds_le_countedSeconds_add_one (not_le.1 hnear)
    have hlong := (countedSeconds_mem_of_lt (not_le.1 hnear)).1
    rcases le_total (start.forwardSeconds stop - 1) 0 with hshort | hsome
    · have hproduct : (start.forwardSeconds stop - 1) * (1 - 1 / 2 ^ 53) ^ 2 ≤ 0 :=
        mul_nonpos_of_nonpos_of_nonneg hshort (by positivity)
      linarith
    · have hproduct : (start.forwardSeconds stop - 1) * (1 - 1 / 2 ^ 53) ^ 2 ≤
          (start.forwardSeconds stop - 1) * 1 :=
        mul_le_mul_of_nonneg_left (by norm_num) hsome
      linarith

end Instant

namespace Bucket

variable {b : Bucket} {t : ℚ}

/-! ## A refill around one token -/

/-- **A refill finds no token that is not there**, up to four roundings. -/
theorem Holds.min_one_refilled_le (h : b.Holds t) (now : Instant) :
    min 1 (b.refilled t now) ≤
      t + b.allowance.exactRate * b.lastUpdate.forwardSeconds now + 1 / 2 ^ 50 := by
  have hrate := b.allowance.exactRate_nonneg
  have ht := h.nonneg
  have hforward := b.lastUpdate.forwardSeconds_nonneg now
  have hcounted := b.lastUpdate.countedSeconds_nonneg now
  have hseconds := b.lastUpdate.countedSeconds_le now
  have hmin : b.refilled t now ≤
      nearest (t + nearest (b.lastUpdate.countedSeconds now * b.allowance.exactRate)) :=
    min_le_left _ _
  generalize b.lastUpdate.countedSeconds now = e at *
  generalize b.lastUpdate.forwardSeconds now = d at *
  generalize b.allowance.exactRate = r at *
  generalize b.refilled t now = x at *
  have hsubnormal : (2 : ℚ) ^ (-1075 : ℤ) ≤ 2 ^ (-60 : ℤ) := two_zpow_mono (by norm_num)
  norm_num1 at hsubnormal
  have hproduct : e * r ≤ r * d * (1 + 1 / 2 ^ 53) ^ 2 := by
    have := mul_le_mul_of_nonneg_right hseconds hrate
    linarith
  have hround := (abs_le.1 (abs_nearest_sub_le (mul_nonneg hcounted hrate))).2
  rcases le_or_gt 1 (t + r * d) with hwhole | hpart
  · linarith [min_le_left 1 x]
  · have hsum := (abs_le.1 (abs_nearest_sub_le (add_nonneg ht (nearest_nonneg (e * r))))).2
    linarith [min_le_right 1 x]

/-- **A refill that finds no token misses little**: four roundings, and what is uncounted. -/
theorem Holds.le_refilled_of_lt_one (h : b.Holds t) {now : Instant}
    (hpart : b.refilled t now < 1) :
    t + b.allowance.exactRate *
        (b.lastUpdate.forwardSeconds now - b.lastUpdate.uncounted now) ≤
      b.refilled t now + 1 / 2 ^ 50 := by
  have hone := b.allowance.one_le_burst
  have hrate := b.allowance.exactRate_nonneg
  have ht := h.nonneg
  have hcounted := b.lastUpdate.countedSeconds_nonneg now
  have hseconds := b.lastUpdate.le_countedSeconds now
  have hnearest : nearest
      (t + nearest (b.lastUpdate.countedSeconds now * b.allowance.exactRate)) =
      b.refilled t now := by
    rw [refilled] at hpart ⊢
    rcases min_lt_iff.1 hpart with hlt | hlt
    · exact (min_eq_left (by linarith)).symm
    · linarith
  generalize b.lastUpdate.countedSeconds now = e at *
  generalize b.lastUpdate.forwardSeconds now - b.lastUpdate.uncounted now = d at *
  generalize b.allowance.exactRate = r at *
  generalize b.refilled t now = x at *
  have hsubnormal : (2 : ℚ) ^ (-1075 : ℤ) ≤ 2 ^ (-60 : ℤ) := two_zpow_mono (by norm_num)
  norm_num1 at hsubnormal
  have hproduct : r * d * (1 - 1 / 2 ^ 53) ^ 2 ≤ e * r := by
    have := mul_le_mul_of_nonneg_right hseconds hrate
    linarith
  have hround := (abs_le.1 (abs_nearest_sub_le (mul_nonneg hcounted hrate))).1
  have hsum := (abs_le.1 (abs_nearest_sub_le (add_nonneg ht (nearest_nonneg (e * r))))).1
  -- The sum is below one as its rounding is, so all roundings are of numbers around one.
  have hbelow : t + nearest (e * r) < 1 := by
    by_contra hwhole
    linarith [onGrid_one.le_nearest zero_le_one (not_lt.1 hwhole)]
  linarith

/-- A refill that finds a token, found it but for the last rounding. -/
theorem Holds.le_of_one_le_refilled (h : b.Holds t) {now : Instant}
    (hwhole : 1 ≤ b.refilled t now) :
    1 ≤ t + b.allowance.exactRate * b.lastUpdate.forwardSeconds now + 1 / 2 ^ 50 := by
  have hmin := h.min_one_refilled_le now
  rwa [min_eq_left hwhole] at hmin

/-! ## The advertised wait -/

/-- A rate that is not zero stands for itself. -/
theorem hasMagnitude_rate (a : Allowance) (h : a.rate.isZero = false) :
    a.rate.HasMagnitude a.exactRate ∧ 0 < a.exactRate := by
  obtain ⟨r, hr, hmag, hneg⟩ := a.exists_rate
  rw [hr, isZero, beq_eq_false_iff_ne] at h
  have hpos : 0 < r.magnitude := mul_pos (by exact_mod_cast Nat.pos_of_ne_zero h) (two_zpow_pos _)
  refine ⟨⟨r, hr, ?_, hmag⟩, hmag ▸ hpos⟩
  by_contra hsign
  exact hpos.ne' (hneg (by simpa using hsign))

/-- A magnitude that has a duration is in range, and its duration is the nearest. -/
theorem ofSeconds?_ofMagnitude {q : ℚ} (hq : 0 ≤ q) {d : Duration}
    (h : Duration.ofSeconds? (ofMagnitude false q) = some d) :
    d.nanoseconds = (roundHalfEven (nearest q * 1000000000)).toNat := by
  rcases lt_or_ge (nearest q) (2 ^ (1024 : ℤ)) with hlt | hge
  · obtain ⟨x, hx, hsign, hmag⟩ := ofMagnitude_of_lt false hq hlt
    rw [hx, Duration.ofSeconds?, Finite.value_of_nonneg hsign, hmag] at h
    split_ifs at h
    exact (congrArg Duration.nanoseconds (Option.some.inj h)).symm
  · rw [ofMagnitude_of_le false hq hge] at h
    cases h

/-- Where no token is there and the rate is not zero, what is missing of a token over the rate is
never negative; it may be past the range. -/
theorem Holds.missing_div_rate (h : b.Holds t) {now : Instant} (hpart : b.refilled t now < 1)
    (hzero : b.allowance.rate.isZero = false) :
    0 < b.allowance.exactRate ∧
      (ofNat 1 - b.tokensAt now) / b.allowance.rate =
        ofMagnitude false (nearest (1 - b.refilled t now) / b.allowance.exactRate) := by
  have hcount := h.tokensAt now
  obtain ⟨hrate, hpos⟩ := hasMagnitude_rate b.allowance hzero
  have hmissing : 0 ≤ 1 - b.refilled t now := by linarith
  have hrange : nearest (1 - b.refilled t now) < 2 ^ (1024 : ℤ) := by
    have hle := onGrid_one.nearest_le hmissing (sub_le_self 1 hcount.nonneg)
    exact hle.trans_lt (one_lt_zpow₀ (by norm_num) (by norm_num))
  rw [hasMagnitude_one.sub hcount hpart.le,
    (hasMagnitude_ofMagnitude hmissing hrange).div hrate hpos.ne']
  exact ⟨hpos, rfl⟩

/-- **What is advertised**: nothing where a token is there, and else what is missing of a token
over the rate, each rounded, and then the nearest nanosecond. -/
theorem Holds.nextAvailable (h : b.Holds t) {now : Instant} {d : Duration}
    (hd : b.nextAvailable now = some d) :
    (1 ≤ b.refilled t now ∧ d = .zero) ∨
      (b.refilled t now < 1 ∧ 0 < b.allowance.exactRate ∧
        d.nanoseconds = (roundHalfEven
          (nearest (nearest (1 - b.refilled t now) / b.allowance.exactRate) *
            1000000000)).toNat) := by
  have htest := hasMagnitude_one.le_iff (h.tokensAt now)
  rw [Bucket.nextAvailable] at hd
  by_cases hwhole : 1 ≤ b.refilled t now
  · rw [if_pos (htest.2 hwhole)] at hd
    exact .inl ⟨hwhole, (Option.some.inj hd).symm⟩
  · rw [if_neg (fun hc => hwhole (htest.1 hc))] at hd
    split_ifs at hd with hzero
    obtain ⟨hpos, hwait⟩ := h.missing_div_rate (not_le.1 hwhole) (Bool.eq_false_iff.2 hzero)
    rw [hwait] at hd
    exact .inr ⟨not_le.1 hwhole, hpos,
      ofSeconds?_ofMagnitude (div_nonneg (nearest_nonneg _) hpos.le) hd⟩

/-- The wait brings what is missing of a token, up to its own roundings. -/
theorem abs_wait_sub_missing_le {r missing : ℚ} (hr : 0 < r) (hmissing : 0 ≤ missing)
    (hpart : missing ≤ 1) {d : Duration}
    (hd : d.nanoseconds = (roundHalfEven (nearest (nearest missing / r) * 1000000000)).toNat) :
    |r * d.exactSeconds - missing| ≤ 1 / 2 ^ 51 + r * (3 / 5000000000) := by
  have hquot : 0 ≤ nearest missing / r := div_nonneg (nearest_nonneg _) hr.le
  have hwait : 0 ≤ nearest (nearest missing / r) * 1000000000 :=
    mul_nonneg (nearest_nonneg _) (by norm_num)
  have hnat : (d.nanoseconds : ℚ) = roundHalfEven (nearest (nearest missing / r) * 1000000000) := by
    have hcast : ((d.nanoseconds : ℤ) : ℚ) = d.nanoseconds := Int.cast_natCast _
    rw [← hcast, hd, Int.toNat_of_nonneg (roundHalfEven_nonneg hwait)]
  have hsubnormal : (2 : ℚ) ^ (-1075 : ℤ) ≤ 2 ^ (-60 : ℤ) := two_zpow_mono (by norm_num)
  norm_num1 at hsubnormal
  have hmissing' := abs_le.1 (abs_nearest_sub_le hmissing)
  have hquot' := abs_le.1 (abs_nearest_sub_le hquot)
  have hwait' := abs_le.1 (abs_roundHalfEven_sub_le (nearest (nearest missing / r) * 1000000000))
  rw [← hnat] at hwait'
  have hcancel : r * (nearest missing / r) = nearest missing := mul_div_cancel₀ _ hr.ne'
  unfold Duration.exactSeconds
  generalize (d.nanoseconds : ℚ) = n at *
  generalize nearest (nearest missing / r) = w at *
  generalize nearest missing / r = q at *
  generalize nearest missing = y at *
  -- In units of tokens: the nearest nanosecond, the rounded quotient, the rounded difference.
  have hn : |r * (n / 1000000000) - r * w| ≤ r * (1 / 2000000000) := by
    rw [← mul_sub, abs_mul, abs_of_pos hr]
    refine mul_le_mul_of_nonneg_left ?_ hr.le
    rw [abs_le]
    constructor <;> linarith
  have hw : |r * w - y| ≤ y / 2 ^ 53 + r * (1 / 10000000000) := by
    have hunits : r * w - y = r * (w - q) := by rw [mul_sub, hcancel]
    rw [hunits, abs_mul, abs_of_pos hr, ← hcancel]
    calc r * |w - q| ≤ r * (q / 2 ^ 53 + 1 / 10000000000) := by
          refine mul_le_mul_of_nonneg_left ?_ hr.le
          rw [abs_le]
          constructor <;> linarith
      _ = r * q / 2 ^ 53 + r * (1 / 10000000000) := by ring
  obtain ⟨hn₁, hn₂⟩ := abs_le.1 hn
  obtain ⟨hw₁, hw₂⟩ := abs_le.1 hw
  rw [abs_le]
  constructor <;> linarith

/-- How far the advertised wait may be off: a nanosecond, a `2 ^ 48`th of the time that a token
takes, and what the bucket leaves uncounted. -/
def grace (b : Bucket) (later : Instant) : ℚ :=
  1 / 1000000000 + 1 / (2 ^ 48 * b.allowance.exactRate) + b.lastUpdate.uncounted later

theorem grace_pos (b : Bucket) (later : Instant) : 0 < b.grace later := by
  have hrate := b.allowance.exactRate_nonneg
  have huncounted := b.lastUpdate.uncounted_nonneg later
  have htoken : 0 ≤ 1 / (2 ^ 48 * b.allowance.exactRate) := by positivity
  unfold grace
  linarith

/-- What the grace brings. -/
theorem rate_mul_grace (b : Bucket) (hrate : 0 < b.allowance.exactRate) (later : Instant) :
    b.allowance.exactRate * b.grace later =
      b.allowance.exactRate * (1 / 1000000000) + 1 / 2 ^ 48 +
        b.allowance.exactRate * b.lastUpdate.uncounted later := by
  unfold grace
  field_simp

/-- A bucket that never refills holds what it holds. -/
theorem refilled_of_no_rate (b : Bucket) (hrate : b.allowance.exactRate = 0) (t : ℚ)
    (now later : Instant) : b.refilled t now = b.refilled t later := by
  rw [refilled, refilled, hrate, mul_zero, mul_zero]

/-- **After the wait and the grace a token is there.** -/
theorem Holds.one_le_refilled_of_waited (h : b.Holds t) {now later : Instant} {d : Duration}
    (hnow : b.lastUpdate.sinceEpoch ≤ now.sinceEpoch) (hlater : now.sinceEpoch ≤ later.sinceEpoch)
    (hd : b.nextAvailable now = some d)
    (hwaited : d.exactSeconds + b.grace later ≤ now.forwardSeconds later) :
    1 ≤ b.refilled t later := by
  by_contra hpart
  have hlate := h.le_refilled_of_lt_one (not_le.1 hpart)
  rw [← Instant.forwardSeconds_trans hnow hlater] at hlate
  have hgain := mul_le_mul_of_nonneg_left hwaited b.allowance.exactRate_nonneg
  rcases h.nextAvailable hd with ⟨hwhole, rfl⟩ | ⟨hmissing, hrate, hwait⟩
  · rcases b.allowance.exactRate_nonneg.eq_or_lt with hzero | hrate
    · exact hpart (b.refilled_of_no_rate hzero.symm t now later ▸ hwhole)
    · have hearly := h.le_of_one_le_refilled hwhole
      have hgrace := b.rate_mul_grace hrate later
      rw [Duration.exactSeconds_zero, zero_add, hgrace] at hgain
      linarith
  · have hearly := h.min_one_refilled_le now
    rw [min_eq_right hmissing.le] at hearly
    have hcount := (h.tokensAt now).nonneg
    have hgrace := b.rate_mul_grace hrate later
    obtain ⟨hlow, -⟩ :=
      abs_le.1 (abs_wait_sub_missing_le hrate (by linarith) (by linarith) hwait)
    linarith

/-- **Before the wait by more than the grace no token is there.** -/
theorem Holds.refilled_lt_one_of_waiting (h : b.Holds t) {now later : Instant} {d : Duration}
    (hnow : b.lastUpdate.sinceEpoch ≤ now.sinceEpoch) (hlater : now.sinceEpoch ≤ later.sinceEpoch)
    (hd : b.nextAvailable now = some d)
    (hwaiting : now.forwardSeconds later + b.grace later ≤ d.exactSeconds) :
    b.refilled t later < 1 := by
  by_contra hpart
  have hlate := h.le_of_one_le_refilled (not_lt.1 hpart)
  rw [← Instant.forwardSeconds_trans hnow hlater] at hlate
  have hgain := mul_le_mul_of_nonneg_left hwaiting b.allowance.exactRate_nonneg
  rcases h.nextAvailable hd with ⟨-, rfl⟩ | ⟨hmissing, hrate, hwait⟩
  · have hgrace := b.grace_pos later
    have hforward := now.forwardSeconds_nonneg later
    rw [Duration.exactSeconds_zero] at hwaiting
    linarith
  · have hearly := h.le_refilled_of_lt_one hmissing
    have hcount := (h.tokensAt now).nonneg
    have hgrace := b.rate_mul_grace hrate later
    have huncounted := mul_le_mul_of_nonneg_left (b.lastUpdate.uncounted_mono hlater) hrate.le
    obtain ⟨-, hhigh⟩ :=
      abs_le.1 (abs_wait_sub_missing_le hrate (by linarith) (by linarith) hwait)
    linarith

/-- **The advertised wait.**  For any bucket that calls have brought about, and any instant that
is not before its last one: where a call is admitted nothing is to be waited for; a call later
than the wait by the grace is admitted, and one sooner than the wait by the grace is denied; and
where nothing is to be waited for though a call is denied, what a nanosecond brings is all that is
missing, roundings apart. -/
theorem wait_within_grace (a : Allowance) (start : Instant) (calls : List Instant)
    {now : Instant} {d : Duration}
    (hnow : ((full a start).replay calls).lastUpdate.sinceEpoch ≤ now.sinceEpoch)
    (hd : ((full a start).replay calls).nextAvailable now = some d) :
    let b := (full a start).replay calls
    ((b.allow now).1 = true → d = .zero) ∧
      (∀ later : Instant, now.sinceEpoch ≤ later.sinceEpoch →
        d.exactSeconds + b.grace later ≤ now.forwardSeconds later → (b.allow later).1 = true) ∧
      (∀ later : Instant, now.sinceEpoch ≤ later.sinceEpoch →
        now.forwardSeconds later + b.grace later ≤ d.exactSeconds → (b.allow later).1 = false) ∧
      (d = .zero → (b.allow now).1 = false →
        1 - (b.tokensAt now).toRat ≤ a.exactRate * (1 / 1000000000) + 1 / 2 ^ 51) := by
  intro b
  obtain ⟨t, ht⟩ := exists_holds_replay a start calls
  have hallowance : b.allowance = a := replay_allowance (full a start) calls
  refine ⟨?_, ?_, ?_, ?_⟩
  · intro hadmitted
    have hwhole := (ht.allow now).1.1 hadmitted
    rcases ht.nextAvailable hd with ⟨-, hzero⟩ | ⟨hmissing, -, -⟩
    · exact hzero
    · linarith
  · intro later hlater hwaited
    exact (ht.allow later).1.2 (ht.one_le_refilled_of_waited hnow hlater hd hwaited)
  · intro later hlater hwaiting
    have hpart := ht.refilled_lt_one_of_waiting hnow hlater hd hwaiting
    exact Bool.eq_false_iff.2 fun hadmitted => by linarith [(ht.allow later).1.1 hadmitted]
  · rintro rfl hdenied
    have htokens : (b.tokensAt now).toRat = ((full a start).replay calls).refilled t now :=
      (ht.tokensAt now).toRat_eq
    rcases ht.nextAvailable hd with ⟨hwhole, -⟩ | ⟨hmissing, hrate, hwait⟩
    · exact absurd ((ht.allow now).1.2 hwhole) (by rw [hdenied]; decide)
    · have hcount := (ht.tokensAt now).nonneg
      obtain ⟨hlow, -⟩ :=
        abs_le.1 (abs_wait_sub_missing_le hrate (by linarith) (by linarith) hwait)
      rw [Duration.exactSeconds_zero, mul_zero, hallowance] at hlow
      rw [htokens]
      linarith [a.exactRate_nonneg]

/-- Three tokens a second, the only one taken at once: what is advertised is a third of a second
to the nanosecond, and two nanoseconds decide. -/
theorem wait_within_grace_of_thirds :
    let b := (full .threeASecond .epoch).replay [.epoch]
    let sooner : Instant := ⟨333333331, by decide⟩
    let later : Instant := ⟨333333335, by decide⟩
    b.lastUpdate.sinceEpoch ≤ Instant.epoch.sinceEpoch ∧
      b.nextAvailable .epoch = some ⟨333333333⟩ ∧
      (b.allow sooner).1 = false ∧ (b.allow later).1 = true := by
  intro b sooner later
  have hnow : b.lastUpdate.sinceEpoch ≤ Instant.epoch.sinceEpoch := by decide +kernel
  have hd : b.nextAvailable .epoch = some ⟨333333333⟩ := by decide +kernel
  obtain ⟨-, hlater, hsooner, -⟩ := wait_within_grace .threeASecond .epoch [.epoch] hnow hd
  exact ⟨hnow, hd, hsooner sooner (by decide) (by decide +kernel),
    hlater later (by decide) (by decide +kernel)⟩

/-- **The advertised wait can be too short.**  At three tokens a second the nearest nanosecond is
the one before the token is whole; and at ten a second a caller that has polled may lack a last
rounding, which is nothing in nanoseconds. -/
theorem advertised_wait_too_short :
    let b := (full .threeASecond .epoch).replay [.epoch]
    let polled := (full .tenASecond .epoch).replay [.epoch, ⟨10000000, by decide⟩]
    (b.nextAvailable .epoch = some ⟨333333333⟩ ∧
        (b.allow ⟨333333333, by decide⟩).1 = false) ∧
      polled.nextAvailable ⟨100000000, by decide⟩ = some .zero ∧
        (polled.allow ⟨100000000, by decide⟩).1 = false := by
  decide +kernel

end Bucket

end Admission
