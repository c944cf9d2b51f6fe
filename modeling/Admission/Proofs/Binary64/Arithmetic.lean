import Admission.Proofs.Binary64.Rounding

/-!
# Arithmetic on magnitudes

The counts of this library are finite, never negative, and carry no sign on their zero.
`x.HasMagnitude q` says that `x` is such a value and stands for `q`; it determines `x` from `q`.
On such values every operation is `ofMagnitude` of the exact result, and the order is that of the
magnitudes, so that a computation can be followed in the rational numbers, one `nearest` for each
operation.

* `HasMagnitude.eq` — a value is known by its magnitude;
* `HasMagnitude.add`, `HasMagnitude.sub`, `HasMagnitude.mul`, `HasMagnitude.div` — the operations;
* `HasMagnitude.le_iff`, `HasMagnitude.lt_iff` — the order;
* `HasMagnitude.add_ofMagnitude` — a sum with a product that may be past the range;
* `hasMagnitude_clamp` — a rounded value held below a bound, also when it went past the range.
-/

namespace Admission.Binary64

/-- The rational number that a value stands for; `0` for what is not finite. -/
def toRat : Binary64 → ℚ
  | .finite x => x.value
  | _ => 0

/-- The finite value of a magnitude, with a clear sign. -/
def HasMagnitude (x : Binary64) (q : ℚ) : Prop :=
  ∃ y : Finite, x = .finite y ∧ y.negative = false ∧ y.magnitude = q

theorem Finite.value_of_nonneg {x : Finite} (h : x.negative = false) : x.value = x.magnitude := by
  simp [Finite.value, h]

section

variable {x y : Binary64} {p q : ℚ}

theorem HasMagnitude.nonneg (h : x.HasMagnitude q) : 0 ≤ q := by
  obtain ⟨y, -, -, rfl⟩ := h
  exact y.magnitude_nonneg

theorem HasMagnitude.toRat_eq (h : x.HasMagnitude q) : x.toRat = q := by
  obtain ⟨y, rfl, hsign, hmagnitude⟩ := h
  rw [toRat, Finite.value_of_nonneg hsign, hmagnitude]

theorem HasMagnitude.onGrid (h : x.HasMagnitude q) : OnGrid q := by
  obtain ⟨y, -, -, rfl⟩ := h
  exact y.onGrid

theorem HasMagnitude.lt (h : x.HasMagnitude q) : q < 2 ^ (1024 : ℤ) := by
  obtain ⟨y, -, -, rfl⟩ := h
  exact y.magnitude_lt

theorem HasMagnitude.eq_ofMagnitude (h : x.HasMagnitude q) : x = ofMagnitude false q := by
  obtain ⟨y, rfl, hs, rfl⟩ := h
  rw [← hs, ofMagnitude_magnitude]

theorem HasMagnitude.unique (hp : x.HasMagnitude p) (hq : x.HasMagnitude q) : p = q :=
  hp.toRat_eq.symm.trans hq.toRat_eq

/-- **A value is known by its magnitude.** -/
theorem HasMagnitude.eq (hx : x.HasMagnitude q) (hy : y.HasMagnitude q) : x = y :=
  hx.eq_ofMagnitude.trans hy.eq_ofMagnitude.symm

/-! ## Values from magnitudes -/

theorem hasMagnitude_zero : (zero false).HasMagnitude 0 :=
  ⟨_, rfl, rfl, by simp [Finite.magnitude]⟩

/-- A magnitude whose rounding is in range has a value. -/
theorem hasMagnitude_ofMagnitude (hq : 0 ≤ q) (h : nearest q < 2 ^ (1024 : ℤ)) :
    (ofMagnitude false q).HasMagnitude (nearest q) :=
  ofMagnitude_of_lt false hq h

/-- A magnitude of 53 bits in range has a value of its own. -/
theorem OnGrid.hasMagnitude (hq : OnGrid q) (h0 : 0 ≤ q) (h : q < 2 ^ (1024 : ℤ)) :
    (ofMagnitude false q).HasMagnitude q := by
  have hround := hasMagnitude_ofMagnitude h0 (hq.nearest_eq.symm ▸ h)
  rwa [hq.nearest_eq] at hround

theorem ofRat_of_nonneg (hq : 0 ≤ q) : ofRat q = ofMagnitude false q := by
  rw [ofRat, if_neg (not_lt.2 hq)]

/-- Whole numbers below `2 ^ 53` are values. -/
theorem hasMagnitude_ofNat {n : ℕ} (hn : n < 2 ^ 53) : (ofNat n).HasMagnitude n := by
  have hlt : (n : ℚ) < 2 ^ (1024 : ℤ) :=
    calc (n : ℚ) < (2 ^ 53 : ℕ) := by exact_mod_cast hn
      _ = 2 ^ (53 : ℤ) := by norm_num
      _ < 2 ^ (1024 : ℤ) := two_zpow_lt (by norm_num)
  rw [ofNat, ofRat_of_nonneg (Nat.cast_nonneg n)]
  exact (onGrid_natCast hn).hasMagnitude (Nat.cast_nonneg n) hlt

theorem hasMagnitude_one : (ofNat 1).HasMagnitude 1 := by
  exact_mod_cast hasMagnitude_ofNat (n := 1) (by norm_num)

/-! ## Operations -/

/-- The sum of two values rounds the sum of their magnitudes. -/
theorem HasMagnitude.add (hx : x.HasMagnitude p) (hy : y.HasMagnitude q) :
    x + y = ofMagnitude false (p + q) := by
  have hp := hx.nonneg
  have hq := hy.nonneg
  obtain ⟨x, rfl, hxs, rfl⟩ := hx
  obtain ⟨y, rfl, hys, rfl⟩ := hy
  show Binary64.add _ _ = _
  rw [Binary64.add, Finite.value_of_nonneg hxs, Finite.value_of_nonneg hys, hxs, hys]
  split_ifs with h
  · rw [h]
    simp [ofMagnitude]
  · exact ofRat_of_nonneg (add_nonneg hp hq)

/-- A zero of either sign adds nothing. -/
theorem HasMagnitude.add_zero (hx : x.HasMagnitude p) (s : Bool) : x + zero s = x := by
  have hp := hx.nonneg
  have hself := hx.eq_ofMagnitude
  obtain ⟨x, rfl, hxs, rfl⟩ := hx
  have hzero : Finite.value ⟨s, 0, -1074, by decide⟩ = 0 := by
    simp [Finite.value, Finite.magnitude]
  show Binary64.add _ (.finite _) = _
  rw [Binary64.add, hzero, Finite.value_of_nonneg hxs, hxs, Rat.add_zero]
  split_ifs with h
  · rw [hself, h]
    simp [ofMagnitude]
  · rw [ofRat_of_nonneg hp, ← hself]

theorem HasMagnitude.add_infinite (hx : x.HasMagnitude p) :
    x + .infinite false = .infinite false := by
  obtain ⟨x, rfl, -, -⟩ := hx
  rfl

/-- A rounded term of a sum may go past the range; then the sum does too. -/
theorem HasMagnitude.add_ofMagnitude (hx : x.HasMagnitude p) (hq : 0 ≤ q) :
    x + ofMagnitude false q = ofMagnitude false (p + nearest q) := by
  rcases lt_or_ge (nearest q) (2 ^ (1024 : ℤ)) with hlt | hge
  · exact hx.add (hasMagnitude_ofMagnitude hq hlt)
  · have hp := hx.nonneg
    have hsum : (2 : ℚ) ^ (1024 : ℤ) ≤ nearest (p + nearest q) :=
      (onGrid_two_zpow (by norm_num)).le_nearest (two_zpow_pos _).le (by linarith)
    rw [ofMagnitude_of_le false hq hge, hx.add_infinite,
      ofMagnitude_of_le false (add_nonneg hp (nearest_nonneg q)) hsum]

/-- The difference of two values rounds the difference of their magnitudes. -/
theorem HasMagnitude.sub (hx : x.HasMagnitude p) (hy : y.HasMagnitude q) (h : q ≤ p) :
    x - y = ofMagnitude false (p - q) := by
  obtain ⟨x, rfl, hxs, rfl⟩ := hx
  obtain ⟨y, rfl, hys, rfl⟩ := hy
  have hneg : Finite.value { y with negative := !y.negative } = -y.magnitude := by
    simp [Finite.value, Finite.magnitude, hys]
  show Binary64.add (.finite x) (Binary64.neg (.finite y)) = _
  rw [Binary64.neg, Binary64.add, hneg, Finite.value_of_nonneg hxs, hxs, hys, ← sub_eq_add_neg]
  split_ifs with hz
  · rw [hz]
    simp [ofMagnitude]
  · exact ofRat_of_nonneg (sub_nonneg.2 h)

/-- The product with a finite value rounds the product of the magnitudes, with its sign. -/
theorem HasMagnitude.mul (hx : x.HasMagnitude p) (r : Finite) :
    x * .finite r = ofMagnitude r.negative (p * r.magnitude) := by
  obtain ⟨x, rfl, hxs, rfl⟩ := hx
  show Binary64.mul _ _ = _
  rw [Binary64.mul, hxs, Bool.false_bne]

/-- The quotient of two values rounds the quotient of their magnitudes. -/
theorem HasMagnitude.div (hx : x.HasMagnitude p) (hy : y.HasMagnitude q) (hq : q ≠ 0) :
    x / y = ofMagnitude false (p / q) := by
  obtain ⟨x, rfl, hxs, rfl⟩ := hx
  obtain ⟨y, rfl, hys, rfl⟩ := hy
  have hm : y.mantissa ≠ 0 := fun hm => hq (by simp [Finite.magnitude, hm])
  show Binary64.div _ _ = _
  rw [Binary64.div, if_neg hm, hxs, hys]
  rfl

/-! ## Order -/

theorem finite_lt_finite (x y : Finite) : Binary64.finite x < .finite y ↔ x.value < y.value := by
  show compare? _ _ = some .lt ↔ _
  rw [compare?]
  split_ifs with h1 h2 <;> simp [h1]

theorem finite_le_finite (x y : Finite) : Binary64.finite x ≤ .finite y ↔ x.value ≤ y.value := by
  show compare? _ _ = some .lt ∨ compare? _ _ = some .eq ↔ _
  rw [compare?]
  split_ifs with h1 h2
  · simp [h1.le]
  · simp [h2]
  · simp [lt_of_le_of_ne (not_lt.1 h1) (Ne.symm h2)]

theorem HasMagnitude.lt_iff (hx : x.HasMagnitude p) (hy : y.HasMagnitude q) : x < y ↔ p < q := by
  obtain ⟨x, rfl, hxs, rfl⟩ := hx
  obtain ⟨y, rfl, hys, rfl⟩ := hy
  rw [finite_lt_finite, Finite.value_of_nonneg hxs, Finite.value_of_nonneg hys]

theorem HasMagnitude.le_iff (hx : x.HasMagnitude p) (hy : y.HasMagnitude q) : x ≤ y ↔ p ≤ q := by
  obtain ⟨x, rfl, hxs, rfl⟩ := hx
  obtain ⟨y, rfl, hys, rfl⟩ := hy
  rw [finite_le_finite, Finite.value_of_nonneg hxs, Finite.value_of_nonneg hys]

/-- No finite value is above infinity, and infinity is above all of them. -/
theorem HasMagnitude.lt_infinite (hx : x.HasMagnitude p) :
    x < .infinite false ∧ ¬ Binary64.infinite false < x := by
  obtain ⟨x, rfl, -, -⟩ := hx
  exact ⟨rfl, fun h => by cases h⟩

/-- **Holding a rounded value below a bound.**  The bound also takes what is past the range. -/
theorem hasMagnitude_clamp (hq : 0 ≤ q) {c : Binary64} {b : ℚ} (hc : c.HasMagnitude b) :
    ((ofMagnitude false q).clamp (zero false) c).HasMagnitude (min (nearest q) b) := by
  rcases lt_or_ge (nearest q) (2 ^ (1024 : ℤ)) with hlt | hge
  · have hx := hasMagnitude_ofMagnitude hq hlt
    have hlow : ¬ ofMagnitude false q < zero false := fun h =>
      absurd ((hx.lt_iff hasMagnitude_zero).1 h) (not_lt.2 hx.nonneg)
    rw [clamp, if_neg hlow]
    split_ifs with h
    · rwa [min_eq_right ((hc.lt_iff hx).1 h).le]
    · rwa [min_eq_left (not_lt.1 fun hb => h ((hc.lt_iff hx).2 hb))]
  · have hinf := ofMagnitude_of_le false hq hge
    have hlow := (hasMagnitude_zero).lt_infinite.2
    rw [hinf, clamp, if_neg hlow, if_pos hc.lt_infinite.1, min_eq_right (hc.lt.le.trans hge)]
    exact hc

end

end Admission.Binary64
