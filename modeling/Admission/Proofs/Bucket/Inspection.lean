import Admission.Proofs.Bucket.Waiting

/-!
# Whatever is asked of a bucket

A bucket can be called, looked at, and asked how long to wait, at any instants and in any order.
On the way a gain may be past the range or vanish, and the rate may be a zero of either sign; the
count that is stored is still a number from zero to the burst, and what the three questions find
at one instant agrees to the bit, since all of them count the same refill.

* `Inquiry`, `afterAll` — what can be asked, and the bucket that is left;
* `Holds.afterAll` — an exact count is kept, by induction on what is asked;
* `Holds.sound`, `Holds.defined`, `Holds.coherent` — what follows from an exact count;
* `sound_of_inquiries` — all of it, for every bucket that any inquiries leave.
-/

namespace Admission

namespace Binary64

/-- A value that can be a count: finite, and with a clear sign, even where it is zero. -/
def IsCount (x : Binary64) : Prop :=
  ∃ y : Finite, x = .finite y ∧ y.negative = false

theorem HasMagnitude.isCount {x : Binary64} {q : ℚ} (h : x.HasMagnitude q) : x.IsCount := by
  obtain ⟨y, hy, hsign, -⟩ := h
  exact ⟨y, hy, hsign⟩

/-- A magnitude that was rounded is not below zero, also where it went past the range. -/
theorem zero_le_ofMagnitude {q : ℚ} (hq : 0 ≤ q) : zero false ≤ ofMagnitude false q := by
  rcases lt_or_ge (nearest q) (2 ^ (1024 : ℤ)) with hlt | hge
  · exact (hasMagnitude_zero.le_iff (hasMagnitude_ofMagnitude hq hlt)).2 (nearest_nonneg q)
  · rw [ofMagnitude_of_le false hq hge]
    exact .inl hasMagnitude_zero.lt_infinite.1

/-- Below `2 ^ 64` there is no value in the last `2 ^ 11`. -/
theorem Finite.magnitude_le_of_lt {x : Finite} (h : x.magnitude < 2 ^ 64) :
    x.magnitude ≤ 2 ^ 64 - 2 ^ 11 := by
  obtain ⟨hm, -, -, hfull⟩ := x.canonical
  have hm' : (x.mantissa : ℚ) ≤ 2 ^ 53 - 1 := by
    have hle : x.mantissa + 1 ≤ 2 ^ 53 := hm
    have hcast : (x.mantissa : ℚ) + 1 ≤ 2 ^ 53 := by exact_mod_cast hle
    linarith
  -- A coarser grid than that of `2 ^ 11` begins at `2 ^ 64`.
  have hexp : x.exponent ≤ 11 := by
    by_contra hbig
    have hmant : ((2 ^ 52 : ℕ) : ℚ) ≤ x.mantissa := by
      exact_mod_cast hfull.resolve_left (by omega)
    have hpow : (2 : ℚ) ^ (12 : ℤ) ≤ 2 ^ x.exponent := two_zpow_mono (by omega)
    have hprod : ((2 ^ 52 : ℕ) : ℚ) * 2 ^ (12 : ℤ) ≤ x.mantissa * 2 ^ x.exponent :=
      mul_le_mul hmant hpow (two_zpow_pos _).le (Nat.cast_nonneg _)
    norm_num [Finite.magnitude] at hprod h
    linarith
  calc x.magnitude ≤ (2 ^ 53 - 1) * 2 ^ (11 : ℤ) :=
        mul_le_mul hm' (two_zpow_mono hexp) (two_zpow_pos _).le (by norm_num)
    _ = 2 ^ 64 - 2 ^ 11 := by norm_num

end Binary64

open Binary64

/-- A number of seconds that has a duration has one of 64 bits of seconds. -/
theorem Duration.seconds_lt_of_ofSeconds? {x : Binary64} {d : Duration}
    (h : Duration.ofSeconds? x = some d) : d.seconds < 2 ^ 64 := by
  cases x with
  | nan => cases h
  | infinite s => cases h
  | finite x =>
    rw [Duration.ofSeconds?] at h
    split_ifs at h with hneg hbig
    have hvalue : x.value ≤ 2 ^ 64 - 2 ^ 11 := by
      cases hs : x.negative with
      | false =>
        rw [Finite.value_of_nonneg hs] at hbig ⊢
        exact Finite.magnitude_le_of_lt (by norm_num at hbig ⊢; exact hbig)
      | true =>
        have hmag := x.magnitude_nonneg
        rw [Finite.value, if_pos hs]
        norm_num
        linarith
    -- A whole number of nanoseconds is rounded to itself, so no carry reaches the next second.
    have hround : roundHalfEven (x.value * 1000000000) ≤ (2 ^ 64 - 2 ^ 11) * 1000000000 := by
      have hmono := roundHalfEven_mono
        (q := (((2 ^ 64 - 2 ^ 11) * 1000000000 : ℤ) : ℚ)) (p := x.value * 1000000000)
        (by push_cast; linarith)
      rwa [roundHalfEven_intCast] at hmono
    have hd := congrArg Duration.nanoseconds (Option.some.inj h)
    dsimp only at hd
    unfold Duration.seconds
    omega

namespace Bucket

/-- What can be asked of a bucket, and for which instant: a token, the tokens that are there, or
the wait for the next one. -/
inductive Inquiry where
  | allow (now : Instant)
  | tokens (now : Instant)
  | wait (now : Instant)

/-- The bucket that is left after an inquiry.  Only a call for a token changes it. -/
def after (b : Bucket) : Inquiry → Bucket
  | .allow now => (b.allow now).2
  | .tokens _ => b
  | .wait _ => b

/-- The bucket that is left after inquiries, one after another. -/
def afterAll (b : Bucket) (inquiries : List Inquiry) : Bucket :=
  inquiries.foldl after b

/-- The count that is stored is a number from zero to the burst, and its sign is clear. -/
structure Sound (b : Bucket) : Prop where
  isCount : b.tokens.IsCount
  le_burst : b.tokens.toRat ≤ b.allowance.burst.toNat

/-- What the arithmetic of a bucket relies on at an instant: the bounds that a count is held
between are in order, a wait is worked out of what is neither negative nor not a number, and
whatever wait there is has 64 bits of seconds. -/
structure Defined (b : Bucket) (now : Instant) : Prop where
  bounds : zero false ≤ b.allowance.capacity
  wait_nonneg : ¬ ofNat 1 ≤ b.tokensAt now → b.allowance.rate.isZero = false →
    zero false ≤ (ofNat 1 - b.tokensAt now) / b.allowance.rate
  wait_fits : ∀ d, b.nextAvailable now = some d → d.seconds < 2 ^ 64

/-- The three inquiries for one instant agree: a call is admitted exactly when one token is to be
seen, afterwards that token, and nothing else, is gone from sight, and nothing is to be waited
for where a call would be admitted. -/
structure Coherent (b : Bucket) (now : Instant) : Prop where
  seen : (b.tokensAt now).IsCount
  admits_iff : (b.allow now).1 = true ↔ ofNat 1 ≤ b.tokensAt now
  taken : (b.allow now).1 = true →
    (b.allow now).2.tokensAt now = b.tokensAt now - ofNat 1 ∧
      ((b.allow now).2.tokensAt now).toRat = (b.tokensAt now).toRat - 1
  kept : (b.allow now).1 = false → (b.allow now).2.tokensAt now = b.tokensAt now
  at_once : (b.allow now).1 = true → b.nextAvailable now = some .zero

variable {b : Bucket} {t : ℚ}

/-- **An exact count is kept by every inquiry.** -/
theorem Holds.after (h : b.Holds t) (inquiry : Inquiry) : ∃ left, (b.after inquiry).Holds left := by
  cases inquiry with
  | allow now => exact ⟨_, (h.allow now).2⟩
  | tokens now => exact ⟨t, h⟩
  | wait now => exact ⟨t, h⟩

theorem after_allowance (b : Bucket) (inquiry : Inquiry) :
    (b.after inquiry).allowance = b.allowance := by
  cases inquiry with
  | allow now => exact b.allow_allowance now
  | tokens now => rfl
  | wait now => rfl

/-- **An exact count is kept by any inquiries.** -/
theorem Holds.afterAll (h : b.Holds t) (inquiries : List Inquiry) :
    ∃ left, (b.afterAll inquiries).Holds left ∧
      (b.afterAll inquiries).allowance = b.allowance := by
  induction inquiries generalizing b t with
  | nil => exact ⟨t, h, rfl⟩
  | cons inquiry rest ih =>
    obtain ⟨middle, hmiddle⟩ := h.after inquiry
    obtain ⟨left, hleft, hallowance⟩ := ih hmiddle
    exact ⟨left, hleft, hallowance.trans (b.after_allowance inquiry)⟩

theorem Holds.sound (h : b.Holds t) : b.Sound where
  isCount := h.1.isCount
  le_burst := h.1.toRat_eq.trans_le h.le_burst

theorem Holds.defined (h : b.Holds t) (now : Instant) : b.Defined now where
  bounds := (hasMagnitude_zero.le_iff b.allowance.hasMagnitude_capacity).2 (Nat.cast_nonneg _)
  wait_nonneg := by
    intro hpart hrate
    have hpart' : b.refilled t now < 1 := by
      rwa [hasMagnitude_one.le_iff (h.tokensAt now), not_le] at hpart
    obtain ⟨hpos, hwait⟩ := h.missing_div_rate hpart' hrate
    rw [hwait]
    exact zero_le_ofMagnitude (div_nonneg (nearest_nonneg _) hpos.le)
  wait_fits := by
    intro d hd
    unfold Bucket.nextAvailable at hd
    dsimp only at hd
    split_ifs at hd
    · obtain rfl := Option.some.inj hd
      decide
    · exact Duration.seconds_lt_of_ofSeconds? hd

/-- What is to be seen after a call at the same instant is what the call left. -/
theorem Holds.tokensAt_allow (h : b.Holds t) (now : Instant) :
    ((b.allow now).2.tokensAt now).HasMagnitude
      (if 1 ≤ b.refilled t now then b.refilled t now - 1 else b.refilled t now) := by
  have hleft := (h.allow now).2.tokensAt_lastUpdate
  rwa [allow_lastUpdate] at hleft

theorem Holds.coherent (h : b.Holds t) (now : Instant) : b.Coherent now := by
  have hcount := h.tokensAt now
  have hgranted := (h.allow now).1
  have hleft := h.tokensAt_allow now
  have htest : ofNat 1 ≤ b.tokensAt now ↔ 1 ≤ b.refilled t now := hasMagnitude_one.le_iff hcount
  refine ⟨hcount.isCount, hgranted.trans htest.symm, ?_, ?_, ?_⟩
  · intro hadmitted
    have hwhole := hgranted.1 hadmitted
    rw [if_pos hwhole] at hleft
    refine ⟨hleft.eq (h.tokensAt_sub_one hwhole), ?_⟩
    rw [hleft.toRat_eq, hcount.toRat_eq]
  · intro hdenied
    have hpart : ¬ 1 ≤ b.refilled t now := fun hwhole => by
      rw [hgranted.2 hwhole] at hdenied
      cases hdenied
    rw [if_neg hpart] at hleft
    exact hleft.eq hcount
  · intro hadmitted
    exact if_pos (htest.2 (hgranted.1 hadmitted))

/-- **Whatever is asked of a bucket** of any rate and burst that buckets accept, at any instants
and in any order, its count stays a number from zero to the burst; and whatever is asked next, at
whatever instant, is well defined and agrees with what else could have been asked. -/
theorem sound_of_inquiries (a : Allowance) (start : Instant) (inquiries : List Inquiry) :
    let b := (full a start).afterAll inquiries
    b.allowance = a ∧ b.Sound ∧ ∀ now, b.Defined now ∧ b.Coherent now := by
  intro b
  obtain ⟨t, hholds, hallowance⟩ := (holds_full a start).afterAll inquiries
  exact ⟨hallowance, hholds.sound, fun now => ⟨hholds.defined now, hholds.coherent now⟩⟩

end Bucket

end Admission
