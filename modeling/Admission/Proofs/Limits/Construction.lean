import Admission.Proofs.Session.Runs
import Mathlib.Data.Rat.Floor

/-!
# Limits from a configuration

Defaults are filled in first and the result is checked once; from then on nothing checks a rate, a
burst or a period again.  So the filling in must leave nothing for the checks to miss: a settled
configuration has a burst wherever its rate is one that buckets accept, and always an idle period.
The limits of a configuration are the settled configuration itself, if it passes.

* `LimiterConfig.Settled`, `settled_resolve`, `Settled.resolve_eq` — nothing is left to a default;
* `Limits.ofConfig_eq_ok_iff` — the limits of a configuration;
* `Limits.exists_ofConfig_iff` — which configurations have any;
* `Reclaimer.exists_spawn_iff` — which intervals can be scheduled;
* `Limits.built_exactly_from_good_config` — all that later code relies on.
-/

namespace Admission

/-! ## Zero and the finite values around it -/

namespace Binary64

theorem Finite.value_eq_zero_iff (x : Finite) : x.value = 0 ↔ x.mantissa = 0 := by
  have hmag : x.magnitude = 0 ↔ x.mantissa = 0 := by
    simp [Finite.magnitude, (two_zpow_pos x.exponent).ne']
  unfold Finite.value
  split_ifs
  · rw [neg_eq_zero, hmag]
  · exact hmag

theorem Finite.value_zero (s : Bool) : Finite.value ⟨s, 0, -1074, by decide⟩ = 0 :=
  (Finite.value_eq_zero_iff _).2 rfl

theorem zero_le_finite (x : Finite) : zero false ≤ .finite x ↔ 0 ≤ x.value := by
  rw [zero, finite_le_finite, Finite.value_zero]

theorem zero_lt_finite (x : Finite) : zero false < .finite x ↔ 0 < x.value := by
  rw [zero, finite_lt_finite, Finite.value_zero]

theorem finite_lt_zero (x : Finite) : .finite x < zero false ↔ x.value < 0 := by
  rw [zero, finite_lt_finite, Finite.value_zero]

theorem isZero_finite (x : Finite) : (Binary64.finite x).isZero = true ↔ x.value = 0 := by
  rw [isZero, beq_iff_eq, Finite.value_eq_zero_iff]

variable {x : Binary64}

/-- A finite value is not below zero exactly when zero is at most it. -/
theorem not_lt_zero_iff (h : x.isFinite = true) : ¬ x < zero false ↔ zero false ≤ x := by
  cases x with
  | nan => cases h
  | infinite s => cases h
  | finite x => rw [finite_lt_zero, zero_le_finite, not_lt]

/-- A zero of either sign is finite and not below zero. -/
theorem finite_nonneg_of_isZero (h : x.isZero = true) :
    x.isFinite = true ∧ zero false ≤ x := by
  cases x with
  | nan => cases h
  | infinite s => cases h
  | finite x => exact ⟨rfl, (zero_le_finite x).2 ((isZero_finite x).1 h).ge⟩

/-- What is finite and not below zero is above it, or a zero. -/
theorem zero_lt_of_isZero_eq_false (hfinite : x.isFinite = true) (hnonneg : zero false ≤ x)
    (h : x.isZero = false) : zero false < x := by
  cases x with
  | nan => cases hfinite
  | infinite s => cases hfinite
  | finite x =>
    have hne : x.value ≠ 0 := fun hzero => by
      rw [(isZero_finite x).2 hzero] at h
      cases h
    exact (zero_lt_finite x).2 (lt_of_le_of_ne ((zero_le_finite x).1 hnonneg) hne.symm)

theorem isZero_eq_false_of_zero_lt (h : zero false < x) : x.isZero = false := by
  cases x with
  | nan => rfl
  | infinite s => rfl
  | finite x =>
    rw [Bool.eq_false_iff, ne_eq, isZero_finite]
    exact ((zero_lt_finite x).1 h).ne'

end Binary64

open Binary64

/-! ## Filling in the defaults -/

namespace LimiterConfig

variable {c : LimiterConfig}

/-- Nothing of the configuration is left to a default: neither rate and burst together, nor the
burst of a rate that has one, nor the idle period. -/
structure Settled (c : LimiterConfig) : Prop where
  rate : ¬ (c.rate.isZero = true ∧ c.burst = 0)
  burst : ¬ (c.burst = 0 ∧ c.rate.isFinite = true ∧ zero false < c.rate)
  expiresIn : c.expiresIn ≠ .zero

/-- A settled configuration stays as it is. -/
theorem Settled.resolve_eq (h : c.Settled) : c.resolve = c := by
  rw [resolve, resolveRate, if_neg h.rate, if_neg h.burst, resolveExpiry, if_neg h.expiresIn]

theorem defaultBurst_ne_zero : defaultBurst ≠ 0 := by
  decide

/-- The default rate and burst pass the checks of a bucket. -/
theorem defaults_pass :
    1 ≤ defaultBurst ∧ defaultRate.isFinite = true ∧ zero false ≤ defaultRate := by
  decide +kernel

/-- Where a burst is given, neither rate nor burst is left to a default. -/
theorem resolveRate_of_burst (h : 1 ≤ c.burst) : c.resolveRate = c := by
  have hburst : c.burst ≠ 0 := by grind
  rw [resolveRate, if_neg fun hzero => hburst hzero.2, if_neg fun hzero => hburst hzero.1]

/-- Where both are left out, both have their defaults. -/
theorem resolveRate_of_neither (hrate : c.rate.isZero = true) (hburst : c.burst = 0) :
    c.resolveRate = { c with rate := defaultRate, burst := defaultBurst } := by
  rw [resolveRate, if_pos ⟨hrate, hburst⟩]

/-- Where the burst alone is left out, it is the least that holds a second's tokens. -/
theorem resolveRate_of_rate (hburst : c.burst = 0) (hfinite : c.rate.isFinite = true)
    (hpos : zero false < c.rate) : c.resolveRate = { c with burst := burstFor c.rate } := by
  have hrate : ¬ (c.rate.isZero = true ∧ c.burst = 0) := fun h => by
    rw [isZero_eq_false_of_zero_lt hpos] at h
    cases h.1
  rw [resolveRate, if_neg hrate, if_pos ⟨hburst, hfinite, hpos⟩]

/-- A rate that no bucket accepts has no default burst. -/
theorem resolveRate_of_bad_rate (hrate : c.rate.isZero = false)
    (hbad : ¬ (c.rate.isFinite = true ∧ zero false < c.rate)) : c.resolveRate = c := by
  have hnonzero : ¬ (c.rate.isZero = true ∧ c.burst = 0) := fun h => by
    rw [hrate] at h
    cases h.1
  rw [resolveRate, if_neg hnonzero, if_neg fun h => hbad h.2]

theorem resolveExpiry_rate (c : LimiterConfig) : c.resolveExpiry.rate = c.rate := by
  unfold resolveExpiry
  split_ifs <;> rfl

theorem resolveExpiry_burst (c : LimiterConfig) : c.resolveExpiry.burst = c.burst := by
  unfold resolveExpiry
  split_ifs <;> rfl

theorem resolveRate_expiresIn (c : LimiterConfig) : c.resolveRate.expiresIn = c.expiresIn := by
  unfold resolveRate
  split_ifs <;> rfl

theorem resolve_rate (c : LimiterConfig) : c.resolve.rate = c.resolveRate.rate :=
  c.resolveRate.resolveExpiry_rate

theorem resolve_burst (c : LimiterConfig) : c.resolve.burst = c.resolveRate.burst :=
  c.resolveRate.resolveExpiry_burst

theorem resolve_expiresIn (c : LimiterConfig) :
    c.resolve.expiresIn = if c.expiresIn = .zero then defaultExpiry else c.expiresIn := by
  rw [resolve, resolveExpiry, resolveRate_expiresIn]
  split_ifs
  · rfl
  · exact c.resolveRate_expiresIn

@[simp] theorem resolve_maxVisitors (c : LimiterConfig) :
    c.resolve.maxVisitors = c.maxVisitors := by
  unfold resolve resolveExpiry resolveRate
  split_ifs <;> rfl

/-- The default burst of a positive rate, as a number. -/
theorem toNat_burstFor {rate : Binary64} (hfinite : rate.isFinite = true) :
    ((burstFor rate).toNat : ℤ) = min (max 1 ⌈rate.toRat⌉) (2 ^ 32 - 1) := by
  cases rate with
  | nan => cases hfinite
  | infinite s => cases hfinite
  | finite x =>
    have hceil : x.value.ceil = ⌈x.value⌉ :=
      eq_of_forall_ge_iff fun z => Rat.ceil_le_iff.trans Int.ceil_le.symm
    rw [burstFor, toRat, toBounded, holdTo, hceil, UInt32.toNat_ofNat']
    omega

/-- So it is not zero. -/
theorem burstFor_ne_zero {rate : Binary64} (hfinite : rate.isFinite = true) :
    burstFor rate ≠ 0 := by
  intro hzero
  have hburst := toNat_burstFor hfinite
  rw [hzero, UInt32.toNat_zero] at hburst
  omega

/-- The rate and burst of a configuration with the defaults filled in are settled. -/
theorem settled_resolveRate (c : LimiterConfig) :
    ¬ (c.resolveRate.rate.isZero = true ∧ c.resolveRate.burst = 0) ∧
      ¬ (c.resolveRate.burst = 0 ∧ c.resolveRate.rate.isFinite = true ∧
        zero false < c.resolveRate.rate) := by
  by_cases hneither : c.rate.isZero = true ∧ c.burst = 0
  · rw [resolveRate_of_neither hneither.1 hneither.2]
    exact ⟨fun h => defaultBurst_ne_zero h.2, fun h => defaultBurst_ne_zero h.1⟩
  by_cases hrate : c.burst = 0 ∧ c.rate.isFinite = true ∧ zero false < c.rate
  · rw [resolveRate_of_rate hrate.1 hrate.2.1 hrate.2.2]
    have hburst := burstFor_ne_zero hrate.2.1
    exact ⟨fun h => hburst h.2, fun h => hburst h.1⟩
  · have hsame : c.resolveRate = c := by rw [resolveRate, if_neg hneither, if_neg hrate]
    rw [hsame]
    exact ⟨hneither, hrate⟩

/-- **Filling in the defaults leaves nothing to a default.** -/
theorem settled_resolve (c : LimiterConfig) : c.resolve.Settled := by
  obtain ⟨hrate, hburst⟩ := c.settled_resolveRate
  refine ⟨?_, ?_, ?_⟩
  · rwa [resolve_rate, resolve_burst]
  · rwa [resolve_rate, resolve_burst]
  · intro hzero
    have hpos : 0 < c.resolve.expiresIn.nanoseconds := c.zero_lt_resolve_expiresIn
    rw [hzero] at hpos
    exact absurd hpos (by decide)

/-- **So it is done once for all.** -/
theorem resolve_resolve (c : LimiterConfig) : c.resolve.resolve = c.resolve :=
  c.settled_resolve.resolve_eq

end LimiterConfig

/-! ## Checking the result -/

/-- A rate and a burst that buckets accept are those of an allowance. -/
theorem Allowance.of?_eq_ok_iff {rate : Binary64} {burst : UInt32} {a : Allowance} :
    of? rate burst = .ok a ↔ a.rate = rate ∧ a.burst = burst := by
  constructor
  · intro h
    unfold of? at h
    split_ifs at h
    obtain rfl := Except.ok.inj h
    exact ⟨rfl, rfl⟩
  · rintro ⟨rfl, rfl⟩
    rw [of?, dif_pos a.burst_pos, dif_pos ⟨a.rate_finite, a.rate_nonneg⟩]

namespace Limits

variable {c : LimiterConfig} {l : Limits}

/-- **The limits of a configuration** are the configuration with its defaults filled in. -/
theorem ofConfig_eq_ok_iff : ofConfig c = .ok l ↔ l.toConfig = c.resolve := by
  constructor
  · intro h
    unfold ofConfig at h
    split at h
    · cases h
    · next allowance hallowance =>
      obtain ⟨hrate, hburst⟩ := Allowance.of?_eq_ok_iff.1 hallowance
      split_ifs at h
      obtain rfl := Except.ok.inj h
      simp only [toConfig, hrate, hburst]
  · intro h
    have hallowance : Allowance.of? c.resolve.rate c.resolve.burst = .ok l.allowance :=
      Allowance.of?_eq_ok_iff.2 (h ▸ ⟨rfl, rfl⟩)
    have hexpires : l.expiresIn = c.resolve.expiresIn := congrArg LimiterConfig.expiresIn h
    have hmax : l.maxVisitors = c.resolve.maxVisitors := congrArg LimiterConfig.maxVisitors h
    obtain ⟨allowance, expiresIn, maxVisitors, hpos, hle⟩ := l
    dsimp only at hallowance hexpires hmax
    subst hexpires hmax
    simp only [ofConfig, hallowance, dif_pos hle]

/-- The configuration of some limits is settled. -/
theorem settled_toConfig (l : Limits) : l.toConfig.Settled := by
  have hburst : l.allowance.burst ≠ 0 := by
    have hpos := l.allowance.burst_pos
    grind
  refine ⟨fun h => hburst h.2, fun h => hburst h.1, ?_⟩
  intro hzero
  have hpos : 0 < l.toConfig.expiresIn.nanoseconds := l.expires_pos
  rw [hzero] at hpos
  exact absurd hpos (by decide)

/-- Limits are the limits of their own configuration. -/
theorem ofConfig_toConfig (l : Limits) : ofConfig l.toConfig = .ok l :=
  ofConfig_eq_ok_iff.2 l.settled_toConfig.resolve_eq.symm

/-- Where a burst is given, limits keep the rate and the burst that they were given. -/
theorem allowance_of_ofConfig (h : ofConfig c = .ok l) (hburst : 1 ≤ c.burst) :
    Allowance.of? c.rate c.burst = .ok l.allowance := by
  have hconfig := ofConfig_eq_ok_iff.1 h
  have hrate : l.allowance.rate = c.resolve.rate := congrArg LimiterConfig.rate hconfig
  have hsame : l.allowance.burst = c.resolve.burst := congrArg LimiterConfig.burst hconfig
  rw [LimiterConfig.resolve_rate, LimiterConfig.resolveRate_of_burst hburst] at hrate
  rw [LimiterConfig.resolve_burst, LimiterConfig.resolveRate_of_burst hburst] at hsame
  exact Allowance.of?_eq_ok_iff.2 ⟨hrate, hsame⟩

/-- A configuration has limits when it passes the checks with its defaults filled in. -/
theorem exists_ofConfig_iff_resolve : (∃ l, ofConfig c = .ok l) ↔
    (1 ≤ c.resolve.burst ∧ c.resolve.rate.isFinite = true ∧ zero false ≤ c.resolve.rate) ∧
      c.resolve.expiresIn ≤ maxPeriod := by
  simp only [ofConfig_eq_ok_iff]
  constructor
  · rintro ⟨l, h⟩
    rw [← h]
    exact ⟨⟨l.allowance.burst_pos, l.allowance.rate_finite, l.allowance.rate_nonneg⟩,
      l.expires_le⟩
  · rintro ⟨⟨hburst, hfinite, hnonneg⟩, hle⟩
    exact ⟨⟨⟨c.resolve.rate, c.resolve.burst, hfinite, hnonneg, hburst⟩, c.resolve.expiresIn,
      c.resolve.maxVisitors, c.zero_lt_resolve_expiresIn, hle⟩, rfl⟩

/-- With the defaults filled in, the rate decides alone whether rate and burst pass: a rate that
passes has a burst by then. -/
theorem resolved_rate_passes_iff :
    (1 ≤ c.resolve.burst ∧ c.resolve.rate.isFinite = true ∧ zero false ≤ c.resolve.rate) ↔
      c.rate.isFinite = true ∧ zero false ≤ c.rate := by
  rw [LimiterConfig.resolve_rate, LimiterConfig.resolve_burst]
  by_cases hburst : c.burst = 0
  · cases hzero : c.rate.isZero with
    | true =>
      rw [LimiterConfig.resolveRate_of_neither hzero hburst]
      exact iff_of_true LimiterConfig.defaults_pass (finite_nonneg_of_isZero hzero)
    | false =>
      by_cases hgood : c.rate.isFinite = true ∧ zero false < c.rate
      · obtain ⟨hfinite, hpos⟩ := hgood
        rw [LimiterConfig.resolveRate_of_rate hburst hfinite hpos]
        have hone : 1 ≤ LimiterConfig.burstFor c.rate := by
          have hne := LimiterConfig.burstFor_ne_zero hfinite
          grind
        exact and_iff_right hone
      · rw [LimiterConfig.resolveRate_of_bad_rate hzero hgood, hburst]
        refine iff_of_false (fun h => absurd h.1 (by decide)) fun h => hgood ⟨h.1, ?_⟩
        exact zero_lt_of_isZero_eq_false h.1 h.2 hzero
  · have hone : 1 ≤ c.burst := by grind
    rw [LimiterConfig.resolveRate_of_burst hone]
    exact and_iff_right hone

/-- An idle period passes when it did before the default was filled in. -/
theorem resolved_expiresIn_le_iff : c.resolve.expiresIn ≤ maxPeriod ↔ c.expiresIn ≤ maxPeriod := by
  rw [LimiterConfig.resolve_expiresIn]
  split_ifs with hzero
  · rw [hzero]
    exact iff_of_true (by decide) (by decide)
  · rfl

/-- **Which configurations have limits.** -/
theorem exists_ofConfig_iff : (∃ l, ofConfig c = .ok l) ↔
    c.rate.isFinite = true ∧ ¬ c.rate < zero false ∧ c.expiresIn ≤ maxPeriod := by
  rw [exists_ofConfig_iff_resolve, resolved_rate_passes_iff, resolved_expiresIn_le_iff, and_assoc]
  refine and_congr_right fun hfinite => ?_
  rw [not_lt_zero_iff hfinite]

end Limits

/-! ## Intervals between passes -/

/-- **Which intervals can be scheduled** for limits that were built: those that are not too long.
Zero stands for the idle period, which is not too long either. -/
theorem Reclaimer.exists_spawn_iff (l : Limits) (requested : Duration) (moment : Nat) :
    (∃ r, spawn l requested moment = .ok r) ↔ requested ≤ maxPeriod := by
  have hinterval : effectiveInterval l requested ≤ maxPeriod ↔ requested ≤ maxPeriod := by
    unfold effectiveInterval
    split_ifs with hzero
    · rw [hzero]
      exact iff_of_true l.expires_le (by decide)
    · rfl
  rw [← hinterval]
  unfold spawn
  dsimp only
  split_ifs with hle
  · exact iff_of_true ⟨_, rfl⟩ hle
  · refine iff_of_false ?_ hle
    rintro ⟨r, hr⟩
    cases hr

/-- A reclaimer that was started waits for the effective interval, which is never zero. -/
theorem Reclaimer.interval_of_spawn {l : Limits} {requested : Duration} {moment : Nat}
    {r : Reclaimer} (h : spawn l requested moment = .ok r) :
    r.interval = (if requested = .zero then l.expiresIn else requested) ∧
      Duration.zero < r.interval := by
  rw [eq_of_spawn h]
  exact ⟨rfl, effectiveInterval_pos l requested⟩

/-! ## What later code relies on -/

namespace Limits

/-- What limits that were built from a configuration have, and what they kept of it: an idle
period that can be scheduled, rate and burst as buckets want them, and whatever was not left to a
default. -/
structure BuiltFrom (l : Limits) (c : LimiterConfig) : Prop where
  expires_mem : Duration.zero < l.expiresIn ∧ l.expiresIn ≤ maxPeriod
  full : 1 ≤ l.allowance.burst ∧ l.allowance.rate.isFinite = true ∧
    zero false ≤ l.allowance.rate
  rate : c.rate.isZero = false ∨ c.burst ≠ 0 → l.allowance.rate = c.rate
  burst : c.burst ≠ 0 → l.allowance.burst = c.burst
  expiresIn : c.expiresIn ≠ .zero → l.expiresIn = c.expiresIn
  maxVisitors : l.maxVisitors = c.maxVisitors
  derived_burst : c.burst = 0 → zero false < c.rate →
    (l.allowance.burst.toNat : ℤ) = min (max 1 ⌈c.rate.toRat⌉) (2 ^ 32 - 1)

variable {c : LimiterConfig} {l : Limits}

theorem builtFrom_of_ofConfig (h : ofConfig c = .ok l) : l.BuiltFrom c := by
  have hconfig := ofConfig_eq_ok_iff.1 h
  have hrate : l.allowance.rate = c.resolveRate.rate := by
    rw [← LimiterConfig.resolve_rate, ← hconfig]
    rfl
  have hburst : l.allowance.burst = c.resolveRate.burst := by
    rw [← LimiterConfig.resolve_burst, ← hconfig]
    rfl
  refine ⟨⟨l.expires_pos, l.expires_le⟩,
    ⟨l.allowance.burst_pos, l.allowance.rate_finite, l.allowance.rate_nonneg⟩, ?_, ?_, ?_, ?_, ?_⟩
  · intro hgiven
    have hsome : ¬ (c.rate.isZero = true ∧ c.burst = 0) := fun hneither => by
      rcases hgiven with hnonzero | hburst
      · rw [hneither.1] at hnonzero
        cases hnonzero
      · exact hburst hneither.2
    rw [hrate, LimiterConfig.resolveRate, if_neg hsome]
    split_ifs <;> rfl
  · intro hgiven
    rw [hburst, LimiterConfig.resolveRate_of_burst (by grind)]
  · intro hgiven
    have hexpires : l.expiresIn = c.resolve.expiresIn := congrArg LimiterConfig.expiresIn hconfig
    rw [hexpires, LimiterConfig.resolve_expiresIn, if_neg hgiven]
  · have hmax : l.maxVisitors = c.resolve.maxVisitors :=
      congrArg LimiterConfig.maxVisitors hconfig
    rw [hmax, LimiterConfig.resolve_maxVisitors]
  · intro hleft hpos
    have hfinite := (exists_ofConfig_iff.1 ⟨l, h⟩).1
    rw [hburst, LimiterConfig.resolveRate_of_rate hleft hfinite hpos]
    exact LimiterConfig.toNat_burstFor hfinite

/-- **Construction is sound and complete.**  A configuration has limits exactly when its rate is
finite and not below zero and its idle period is not too long; filling in its defaults beforehand
makes no difference, also when it is done more than once.  Limits that were built have all that
later code takes for granted.  Whatever is told to a session that starts with them, its store
keeps them, and every bucket in it was made with their allowance; and a reclaimer for them is
started exactly when the requested interval is not too long, with a period that is not zero. -/
theorem built_exactly_from_good_config (c : LimiterConfig) :
    ((∃ l, ofConfig c = .ok l) ↔
      c.rate.isFinite = true ∧ ¬ c.rate < zero false ∧ c.expiresIn ≤ maxPeriod) ∧
    (c.resolve.resolve = c.resolve ∧ ofConfig c.resolve = ofConfig c) ∧
    ∀ l, ofConfig c = .ok l → l.BuiltFrom c ∧
      (∀ (now : Instant) (commands : List Command) (store : Store),
        ((Session.start l now).run commands).1.store = some store →
        store.limits = l ∧ ∀ id v, store.visitor? id = some v → v.bucket.allowance = l.allowance) ∧
      ∀ (requested : Duration) (moment : Nat),
        ((∃ r, Reclaimer.spawn l requested moment = .ok r) ↔ requested ≤ maxPeriod) ∧
        ∀ r, Reclaimer.spawn l requested moment = .ok r →
          r.interval = (if requested = .zero then l.expiresIn else requested) ∧
            Duration.zero < r.interval := by
  refine ⟨exists_ofConfig_iff, ⟨c.resolve_resolve, ?_⟩, ?_⟩
  · unfold ofConfig
    simp only [c.resolve_resolve]
  intro l hl
  refine ⟨builtFrom_of_ofConfig hl, ?_, ?_⟩
  · intro now commands store hstore
    have hover : ((Session.start l now).run commands).1.Over l :=
      (Session.over_start l now).run commands
    have hreachable := hover store hstore
    refine ⟨hreachable.limits_eq, fun id v hv => ?_⟩
    rw [(hreachable.sound id v hv).allowance, hreachable.limits_eq]
  · intro requested moment
    exact ⟨Reclaimer.exists_spawn_iff l requested moment, fun r => Reclaimer.interval_of_spawn⟩

/-- Two and a half tokens a second and a cap, with all else left out: three tokens are kept, and a
reclaimer without an interval of its own comes every three minutes. -/
theorem built_exactly_from_good_config_of_half_tokens :
    let c : LimiterConfig := ⟨.ofRat (5 / 2), 0, .zero, some 7⟩
    ∃ l, ofConfig c = .ok l ∧ l.allowance.rate = .ofRat (5 / 2) ∧
      l.allowance.burst.toNat = 3 ∧ l.maxVisitors = some 7 ∧
      ∃ r, Reclaimer.spawn l .zero 0 = .ok r ∧ r.interval = .ofSeconds 180 := by
  intro c
  obtain ⟨hexists, -, hlimits⟩ := built_exactly_from_good_config c
  obtain ⟨l, hl⟩ := hexists.2 (by decide +kernel)
  obtain ⟨hbuilt, -, hspawn⟩ := hlimits l hl
  obtain ⟨r, hr⟩ := (hspawn .zero 0).1.2 (by decide)
  have hburst := hbuilt.derived_burst rfl (by decide +kernel)
  have hvalue : c.rate.toRat = 5 / 2 := by decide +kernel
  have hexpires : l.expiresIn = .ofSeconds 180 := by
    have hsame : l.expiresIn = c.resolve.expiresIn :=
      congrArg LimiterConfig.expiresIn (ofConfig_eq_ok_iff.1 hl)
    rw [hsame, LimiterConfig.resolve_expiresIn, if_pos rfl]
    rfl
  rw [hvalue] at hburst
  refine ⟨l, hl, hbuilt.rate (.inl (by decide +kernel)), ?_, hbuilt.maxVisitors, r, hr, ?_⟩
  · norm_num at hburst
    omega
  · rw [((hspawn .zero 0).2 r hr).1, if_pos rfl, hexpires]

end Limits

end Admission
