import Admission.Binary64.Basic
import Mathlib.Algebra.Order.Field.Power
import Mathlib.Algebra.Order.Field.Rat
import Mathlib.Tactic.FieldSimp
import Mathlib.Tactic.Linarith
import Mathlib.Tactic.NormNum
import Mathlib.Tactic.Positivity
import Mathlib.Tactic.Ring

/-!
# Rounding to 53 bits

Every operation of `Binary64` rounds an exact magnitude once.  This file takes the rounding apart
from the range: `nearest q` is the magnitude that a mantissa of 53 bits gives to `q` when no
exponent is too large, and only `ofMagnitude` then asks whether it is in range.

* `roundHalfEven_mono`, `abs_roundHalfEven_sub_le` — the nearest integer;
* `two_zpow_binaryOrder_le`, `lt_two_zpow_binaryOrder` — the two bounds that pin `binaryOrder`;
* `nearest_mono` — rounding keeps the order;
* `OnGrid.nearest_eq` — what has 53 bits is left as it is;
* `OnGrid.sub_one` — taking one away is exact;
* `abs_nearest_sub_le` — the error is half a unit in the last place, or half the least
  subnormal;
* `ofMagnitude_of_lt`, `ofMagnitude_of_le` — `ofMagnitude` is `nearest` within the range, and
  infinite past it.
-/

namespace Admission.Binary64

/-! ## The nearest integer -/

theorem roundHalfEven_intCast (z : ℤ) : roundHalfEven z = z := by
  simp [roundHalfEven, Rat.floor_intCast]

/-- The nearest integer is one of the two around a rational number. -/
theorem roundHalfEven_mem_floor (q : ℚ) :
    q.floor ≤ roundHalfEven q ∧ roundHalfEven q ≤ q.floor + 1 := by
  unfold roundHalfEven
  dsimp only
  split_ifs <;> omega

/-- The nearest integer is at most a half away. -/
theorem abs_roundHalfEven_sub_le (q : ℚ) : |(roundHalfEven q : ℚ) - q| ≤ 1 / 2 := by
  have hlow := Rat.floor_le q
  have hhigh := Rat.lt_floor_add_one q
  push_cast at hhigh
  unfold roundHalfEven
  dsimp only
  rw [abs_le]
  split_ifs <;> push_cast <;> constructor <;> linarith

/-- Taking the nearest integer keeps the order. -/
theorem roundHalfEven_mono {p q : ℚ} (h : p ≤ q) : roundHalfEven p ≤ roundHalfEven q := by
  rcases lt_or_eq_of_le (Rat.floor_monotone h) with hlt | heq
  · have hp := (roundHalfEven_mem_floor p).2
    have hq := (roundHalfEven_mem_floor q).1
    omega
  · -- With one floor the fractions decide, and a fraction of a half decides alike for both.
    unfold roundHalfEven
    dsimp only
    rw [heq]
    split_ifs <;> first | omega | (exfalso; linarith)

/-! ## Order of magnitude -/

theorem two_zpow_pos (k : ℤ) : (0 : ℚ) < 2 ^ k :=
  zpow_pos (by norm_num) k

theorem two_zpow_mono {j k : ℤ} (h : j ≤ k) : (2 : ℚ) ^ j ≤ 2 ^ k :=
  zpow_le_zpow_right₀ (by norm_num) h

theorem two_zpow_lt {j k : ℤ} (h : j < k) : (2 : ℚ) ^ j < 2 ^ k :=
  zpow_lt_zpow_right₀ (by norm_num) h

theorem lt_of_two_zpow_lt {j k : ℤ} (h : (2 : ℚ) ^ j < 2 ^ k) : j < k :=
  (zpow_lt_zpow_iff_right₀ (by norm_num)).1 h

theorem two_zpow_add (j k : ℤ) : (2 : ℚ) ^ (j + k) = 2 ^ j * 2 ^ k :=
  zpow_add₀ (by norm_num) j k

/-- The lengths of numerator and denominator leave one power of two on either side. -/
theorem length_bounds {q : ℚ} (hq : 0 < q) :
    (2 : ℚ) ^ ((Nat.log2 q.num.natAbs : ℤ) - (Nat.log2 q.den : ℤ) - 1) ≤ q ∧
      q < 2 ^ ((Nat.log2 q.num.natAbs : ℤ) - (Nat.log2 q.den : ℤ) + 1) := by
  have hnum : 0 < q.num := Rat.num_pos.2 hq
  have hne : q.num.natAbs ≠ 0 := by omega
  have hden : (0 : ℚ) < q.den := by exact_mod_cast q.den_pos
  have hval : (q.num.natAbs : ℚ) = q * q.den := by
    have habs : ((q.num.natAbs : ℤ) : ℚ) = q.num := by rw [Int.natAbs_of_nonneg hnum.le]
    rw [Rat.mul_den_eq_num, ← habs, Int.cast_natCast]
  generalize hn : q.num.natAbs = n at hval hne
  generalize hd : q.den = d at hval hden
  have hn1 : (2 : ℚ) ^ (Nat.log2 n : ℤ) ≤ n := by exact_mod_cast Nat.log2_self_le hne
  have hn2 : (n : ℚ) < 2 ^ ((Nat.log2 n : ℤ) + 1) := by exact_mod_cast Nat.lt_log2_self
  have hd1 : (2 : ℚ) ^ (Nat.log2 d : ℤ) ≤ d := by
    exact_mod_cast Nat.log2_self_le (hd ▸ q.den_ne_zero)
  have hd2 : (d : ℚ) < 2 ^ ((Nat.log2 d : ℤ) + 1) := by exact_mod_cast Nat.lt_log2_self
  constructor
  · refine le_of_mul_le_mul_right ?_ hden
    calc (2 : ℚ) ^ ((Nat.log2 n : ℤ) - (Nat.log2 d : ℤ) - 1) * d
        ≤ 2 ^ ((Nat.log2 n : ℤ) - (Nat.log2 d : ℤ) - 1) * 2 ^ ((Nat.log2 d : ℤ) + 1) :=
          mul_le_mul_of_nonneg_left hd2.le (two_zpow_pos _).le
      _ = 2 ^ (Nat.log2 n : ℤ) := by
          rw [← two_zpow_add]
          congr 1
          ring
      _ ≤ q * d := hval ▸ hn1
  · refine lt_of_mul_lt_mul_right ?_ hden.le
    calc q * d
        < 2 ^ ((Nat.log2 n : ℤ) + 1) := hval ▸ hn2
      _ = 2 ^ ((Nat.log2 n : ℤ) - (Nat.log2 d : ℤ) + 1) * 2 ^ (Nat.log2 d : ℤ) := by
          rw [← two_zpow_add]
          congr 1
          ring
      _ ≤ 2 ^ ((Nat.log2 n : ℤ) - (Nat.log2 d : ℤ) + 1) * d :=
          mul_le_mul_of_nonneg_left hd1 (two_zpow_pos _).le

/-- The order of magnitude is not too large. -/
theorem two_zpow_binaryOrder_le {q : ℚ} (hq : 0 < q) : (2 : ℚ) ^ binaryOrder q ≤ q := by
  unfold binaryOrder
  dsimp only
  split_ifs with h
  · exact h
  · exact (length_bounds hq).1

/-- The order of magnitude is not too small. -/
theorem lt_two_zpow_binaryOrder {q : ℚ} (hq : 0 < q) : q < (2 : ℚ) ^ (binaryOrder q + 1) := by
  unfold binaryOrder
  dsimp only
  split_ifs with h
  · exact (length_bounds hq).2
  · rw [sub_add_cancel]
    exact not_le.1 h

theorem binaryOrder_lt {q : ℚ} (hq : 0 < q) {k : ℤ} (h : q < 2 ^ k) : binaryOrder q < k :=
  lt_of_two_zpow_lt ((two_zpow_binaryOrder_le hq).trans_lt h)

theorem le_binaryOrder {q : ℚ} (hq : 0 < q) {k : ℤ} (h : (2 : ℚ) ^ k ≤ q) : k ≤ binaryOrder q :=
  Int.lt_add_one_iff.1 (lt_of_two_zpow_lt (h.trans_lt (lt_two_zpow_binaryOrder hq)))

theorem binaryOrder_mono {p q : ℚ} (hp : 0 < p) (h : p ≤ q) : binaryOrder p ≤ binaryOrder q :=
  le_binaryOrder (hp.trans_le h) ((two_zpow_binaryOrder_le hp).trans h)

/-! ## The grid around a magnitude -/

theorem neg_le_gridExponent (q : ℚ) : -1074 ≤ gridExponent q :=
  le_max_left _ _

/-- A magnitude is below the mantissa `2 ^ 53` of its own grid. -/
theorem lt_two_zpow_gridExponent {q : ℚ} (hq : 0 < q) : q < (2 : ℚ) ^ (gridExponent q + 53) := by
  refine (lt_two_zpow_binaryOrder hq).trans_le (two_zpow_mono ?_)
  unfold gridExponent
  omega

/-- Off the least exponent a magnitude has a full mantissa on its own grid. -/
theorem two_zpow_le_of_gridExponent_ne {q : ℚ} (hq : 0 < q) (h : gridExponent q ≠ -1074) :
    (2 : ℚ) ^ (gridExponent q + 52) ≤ q := by
  refine le_trans (two_zpow_mono ?_) (two_zpow_binaryOrder_le hq)
  unfold gridExponent at *
  omega

/-- A grid on which a magnitude is below `2 ^ 53` is at least as coarse as its own. -/
theorem gridExponent_le {q : ℚ} (hq : 0 < q) {k : ℤ} (hk : -1074 ≤ k) (h : q < 2 ^ (k + 53)) :
    gridExponent q ≤ k := by
  have hlt := binaryOrder_lt hq h
  unfold gridExponent
  omega

theorem gridExponent_mono {p q : ℚ} (hp : 0 < p) (h : p ≤ q) :
    gridExponent p ≤ gridExponent q := by
  have hle := binaryOrder_mono hp h
  unfold gridExponent
  omega

/-! ## The nearest magnitude -/

/-- How many units of its own grid a magnitude rounds to. -/
def scaledMantissa (q : ℚ) : ℕ :=
  (roundHalfEven (q / 2 ^ gridExponent q)).toNat

/-- The magnitude that a mantissa of 53 bits gives to another one, with no largest exponent. -/
def nearest (q : ℚ) : ℚ :=
  scaledMantissa q * 2 ^ gridExponent q

/-- A magnitude that a mantissa of 53 bits writes down exactly, with no largest exponent. -/
def OnGrid (q : ℚ) : Prop :=
  ∃ (m : ℕ) (k : ℤ), m < 2 ^ 53 ∧ -1074 ≤ k ∧ q = m * 2 ^ k

theorem roundHalfEven_zero : roundHalfEven 0 = 0 :=
  roundHalfEven_intCast 0

theorem roundHalfEven_nonneg {q : ℚ} (hq : 0 ≤ q) : 0 ≤ roundHalfEven q := by
  simpa only [roundHalfEven_zero] using roundHalfEven_mono hq

/-- The mantissa of a magnitude is the nearest integer itself. -/
theorem cast_scaledMantissa {q : ℚ} (hq : 0 ≤ q) :
    (scaledMantissa q : ℚ) = roundHalfEven (q / 2 ^ gridExponent q) := by
  have h := roundHalfEven_nonneg (div_nonneg hq (two_zpow_pos (gridExponent q)).le)
  have hnat : ((scaledMantissa q : ℤ) : ℚ) = roundHalfEven (q / 2 ^ gridExponent q) := by
    rw [scaledMantissa, Int.toNat_of_nonneg h]
  simpa only [Int.cast_natCast] using hnat

theorem nearest_zero : nearest 0 = 0 := by
  simp [nearest, scaledMantissa, roundHalfEven_zero]

theorem nearest_nonneg (q : ℚ) : 0 ≤ nearest q :=
  mul_nonneg (Nat.cast_nonneg _) (two_zpow_pos _).le

/-- A mantissa rounds up to `2 ^ 53` at most. -/
theorem scaledMantissa_le {q : ℚ} (hq : 0 ≤ q) : scaledMantissa q ≤ 2 ^ 53 := by
  rcases hq.eq_or_lt with rfl | hpos
  · simp [scaledMantissa, roundHalfEven_zero]
  · have hquot : q / 2 ^ gridExponent q ≤ ((2 ^ 53 : ℤ) : ℚ) := by
      rw [div_le_iff₀ (two_zpow_pos _)]
      calc q ≤ 2 ^ (gridExponent q + 53) := (lt_two_zpow_gridExponent hpos).le
        _ = ((2 ^ 53 : ℤ) : ℚ) * 2 ^ gridExponent q := by
            rw [add_comm, two_zpow_add]
            norm_num
    have hround := roundHalfEven_mono hquot
    rw [roundHalfEven_intCast] at hround
    unfold scaledMantissa
    omega

/-- Off the least exponent the mantissa is full. -/
theorem le_scaledMantissa {q : ℚ} (hq : 0 < q) (h : gridExponent q ≠ -1074) :
    2 ^ 52 ≤ scaledMantissa q := by
  have hquot : ((2 ^ 52 : ℤ) : ℚ) ≤ q / 2 ^ gridExponent q := by
    rw [le_div_iff₀ (two_zpow_pos _)]
    calc ((2 ^ 52 : ℤ) : ℚ) * 2 ^ gridExponent q
        = 2 ^ (gridExponent q + 52) := by
          rw [add_comm, two_zpow_add]
          norm_num
      _ ≤ q := two_zpow_le_of_gridExponent_ne hq h
  have hround := roundHalfEven_mono hquot
  rw [roundHalfEven_intCast] at hround
  unfold scaledMantissa
  omega

/-- The error is at most half a unit of the grid. -/
theorem abs_nearest_sub_le_half {q : ℚ} (hq : 0 ≤ q) :
    |nearest q - q| ≤ 2 ^ gridExponent q / 2 := by
  have hpos := two_zpow_pos (gridExponent q)
  have hscale : nearest q - q =
      (roundHalfEven (q / 2 ^ gridExponent q) - q / 2 ^ gridExponent q) * 2 ^ gridExponent q := by
    rw [nearest, cast_scaledMantissa hq, sub_mul, div_mul_cancel₀ _ hpos.ne']
  rw [hscale, abs_mul, abs_of_pos hpos]
  calc |(roundHalfEven (q / 2 ^ gridExponent q) : ℚ) - q / 2 ^ gridExponent q| *
        2 ^ gridExponent q
      ≤ 1 / 2 * 2 ^ gridExponent q :=
        mul_le_mul_of_nonneg_right (abs_roundHalfEven_sub_le _) hpos.le
    _ = 2 ^ gridExponent q / 2 := by ring

/-- Off the least exponent the error is a `2 ^ 53`rd of the magnitude. -/
theorem abs_nearest_sub_le_of_ne {q : ℚ} (hq : 0 < q) (h : gridExponent q ≠ -1074) :
    |nearest q - q| ≤ q / 2 ^ 53 := by
  refine (abs_nearest_sub_le_half hq.le).trans ?_
  have hfull := two_zpow_le_of_gridExponent_ne hq h
  rw [add_comm, two_zpow_add] at hfull
  norm_num at hfull ⊢
  linarith

/-- **Error of one rounding.**  It is at most a `2 ^ 53`rd of the magnitude, or half the least
subnormal. -/
theorem abs_nearest_sub_le {q : ℚ} (hq : 0 ≤ q) :
    |nearest q - q| ≤ q / 2 ^ 53 + 2 ^ (-1075 : ℤ) := by
  have hunit := two_zpow_pos (-1075)
  rcases hq.eq_or_lt with rfl | hpos
  · rw [nearest_zero]
    simp
  · by_cases h : gridExponent q = -1074
    · have herr := abs_nearest_sub_le_half hpos.le
      have hhalf : (2 : ℚ) ^ (-1074 : ℤ) = 2 ^ (-1075 : ℤ) * 2 := by
        rw [show (-1074 : ℤ) = -1075 + 1 by norm_num, two_zpow_add, zpow_one]
      rw [h, hhalf] at herr
      have hquot : 0 ≤ q / 2 ^ 53 := by positivity
      linarith
    · linarith [abs_nearest_sub_le_of_ne hpos h]

/-- **Error of one rounding in the normal range.** -/
theorem abs_nearest_sub_le_of_normal {q : ℚ} (hq : (2 : ℚ) ^ (-1022 : ℤ) ≤ q) :
    |nearest q - q| ≤ q / 2 ^ 53 := by
  have hpos : 0 < q := (two_zpow_pos _).trans_le hq
  by_cases h : gridExponent q = -1074
  · refine (abs_nearest_sub_le_half hpos.le).trans ?_
    rw [show (-1022 : ℤ) = 52 + -1074 by norm_num, two_zpow_add] at hq
    rw [h]
    norm_num1 at hq ⊢
    linarith
  · exact abs_nearest_sub_le_of_ne hpos h

/-- Zero and what is in the normal range keep all but a `2 ^ 53`rd of their magnitude, and gain
no more. -/
theorem nearest_mem_of_normal {q : ℚ} (hq : q ≠ 0 → (2 : ℚ) ^ (-1022 : ℤ) ≤ q) :
    q * (1 - 1 / 2 ^ 53) ≤ nearest q ∧ nearest q ≤ q * (1 + 1 / 2 ^ 53) := by
  by_cases h : q = 0
  · simp [h, nearest_zero]
  · obtain ⟨hlow, hhigh⟩ := abs_le.1 (abs_nearest_sub_le_of_normal (hq h))
    constructor <;> linarith

/-- **What has 53 bits is left as it is.** -/
theorem OnGrid.nearest_eq {q : ℚ} (h : OnGrid q) : nearest q = q := by
  obtain ⟨m, k, hm, hk, rfl⟩ := h
  rcases Nat.eq_zero_or_pos m with rfl | hmpos
  · simpa using nearest_zero
  · have hpos : (0 : ℚ) < m * 2 ^ k := mul_pos (by exact_mod_cast hmpos) (two_zpow_pos k)
    have hlt : (m : ℚ) * 2 ^ k < 2 ^ (k + 53) := by
      rw [add_comm, two_zpow_add]
      exact mul_lt_mul_of_pos_right (by exact_mod_cast hm) (two_zpow_pos k)
    -- Its own grid is at least as fine as the one it is written on, so it is a whole number of
    -- units there.
    obtain ⟨j, hj⟩ := Int.eq_ofNat_of_zero_le (sub_nonneg.2 (gridExponent_le hpos hk hlt))
    have hunits : (m : ℚ) * 2 ^ k / 2 ^ gridExponent ((m : ℚ) * 2 ^ k) = ((m * 2 ^ j : ℕ) : ℤ) := by
      rw [div_eq_iff (two_zpow_pos _).ne']
      have hk : k = (j : ℤ) + gridExponent ((m : ℚ) * 2 ^ k) := by omega
      conv_lhs => rw [hk, two_zpow_add]
      push_cast
      rw [zpow_natCast, mul_assoc]
    rw [nearest, cast_scaledMantissa hpos.le, hunits, roundHalfEven_intCast, ← hunits,
      div_mul_cancel₀ _ (two_zpow_pos _).ne']

theorem onGrid_two_zpow {k : ℤ} (hk : -1074 ≤ k) : OnGrid (2 ^ k) :=
  ⟨1, k, by norm_num, hk, by simp⟩

theorem onGrid_natCast {n : ℕ} (hn : n < 2 ^ 53) : OnGrid n :=
  ⟨n, 0, hn, by norm_num, by simp⟩

theorem onGrid_one : OnGrid 1 := by
  exact_mod_cast onGrid_natCast (n := 1) (by norm_num)

/-- Taking one away is exact between `1` and `2 ^ 53`. -/
theorem OnGrid.sub_one {q : ℚ} (hq : OnGrid q) (h1 : 1 ≤ q) (h : q ≤ 2 ^ 53) : OnGrid (q - 1) := by
  obtain ⟨m, k, hm, hk, rfl⟩ := hq
  rcases le_or_gt k 0 with hneg | hpos
  · -- One is a whole number of units.
    obtain ⟨j, hj⟩ := Int.eq_ofNat_of_zero_le (neg_nonneg.2 hneg)
    have hone : (2 : ℚ) ^ j * 2 ^ k = 1 := by
      rw [← zpow_natCast, ← two_zpow_add, ← hj, neg_add_cancel, zpow_zero]
    have hle : 2 ^ j ≤ m := by
      have hle' : (2 : ℚ) ^ j * 2 ^ k ≤ m * 2 ^ k := hone.trans_le h1
      exact_mod_cast le_of_mul_le_mul_right hle' (two_zpow_pos k)
    refine ⟨m - 2 ^ j, k, (Nat.sub_le _ _).trans_lt hm, hk, ?_⟩
    rw [Nat.cast_sub hle, sub_mul]
    push_cast
    rw [hone]
  · -- The magnitude is a whole number.
    obtain ⟨j, rfl⟩ := Int.eq_ofNat_of_zero_le hpos.le
    have hnat : (m : ℚ) * 2 ^ ((j : ℕ) : ℤ) = (m * 2 ^ j : ℕ) := by push_cast; rfl
    rw [hnat] at h h1 ⊢
    have h1' : 1 ≤ m * 2 ^ j := by exact_mod_cast h1
    have h' : m * 2 ^ j ≤ 2 ^ 53 := by exact_mod_cast h
    rw [← Nat.cast_one, ← Nat.cast_sub h1']
    exact onGrid_natCast (by omega)

/-- **Rounding keeps the order.** -/
theorem nearest_mono {p q : ℚ} (hp : 0 ≤ p) (h : p ≤ q) : nearest p ≤ nearest q := by
  rcases hp.eq_or_lt with rfl | hpos
  · rw [nearest_zero]
    exact nearest_nonneg q
  rcases (gridExponent_mono hpos h).eq_or_lt with heq | hlt
  · rw [nearest, nearest, cast_scaledMantissa hp, cast_scaledMantissa (hp.trans h), ← heq]
    refine mul_le_mul_of_nonneg_right ?_ (two_zpow_pos _).le
    exact_mod_cast roundHalfEven_mono (div_le_div_of_nonneg_right h (two_zpow_pos _).le)
  · -- On different grids a power of two lies between the two roundings.
    have hqpos := hpos.trans_le h
    have hne : gridExponent q ≠ -1074 := by
      have := neg_le_gridExponent p
      omega
    calc nearest p
        ≤ ((2 ^ 53 : ℕ) : ℚ) * 2 ^ gridExponent p :=
          mul_le_mul_of_nonneg_right (by exact_mod_cast scaledMantissa_le hp) (two_zpow_pos _).le
      _ = ((2 ^ 52 : ℕ) : ℚ) * 2 ^ (gridExponent p + 1) := by
          rw [two_zpow_add]
          norm_num
          ring
      _ ≤ ((2 ^ 52 : ℕ) : ℚ) * 2 ^ gridExponent q :=
          mul_le_mul_of_nonneg_left (two_zpow_mono (by omega)) (Nat.cast_nonneg _)
      _ ≤ nearest q :=
          mul_le_mul_of_nonneg_right (by exact_mod_cast le_scaledMantissa hqpos hne)
            (two_zpow_pos _).le

/-- What has 53 bits and lies above a magnitude lies above its rounding too. -/
theorem OnGrid.nearest_le {p q : ℚ} (hq : OnGrid q) (hp : 0 ≤ p) (h : p ≤ q) : nearest p ≤ q :=
  (nearest_mono hp h).trans_eq hq.nearest_eq

/-- What has 53 bits and lies below a magnitude lies below its rounding too. -/
theorem OnGrid.le_nearest {p q : ℚ} (hp : OnGrid p) (hp0 : 0 ≤ p) (h : p ≤ q) : p ≤ nearest q :=
  hp.nearest_eq.symm.trans_le (nearest_mono hp0 h)

/-! ## The range -/

theorem Finite.magnitude_nonneg (x : Finite) : 0 ≤ x.magnitude :=
  mul_nonneg (Nat.cast_nonneg _) (two_zpow_pos _).le

theorem Finite.onGrid (x : Finite) : OnGrid x.magnitude :=
  ⟨x.mantissa, x.exponent, x.canonical.1, x.canonical.2.1, rfl⟩

/-- A mantissa below `2 ^ 53` stays below `2 ^ 1024` up to the greatest exponent. -/
theorem mul_two_zpow_lt {m : ℕ} {k : ℤ} (hm : m < 2 ^ 53) (hk : k ≤ 971) :
    (m : ℚ) * 2 ^ k < 2 ^ (1024 : ℤ) :=
  calc (m : ℚ) * 2 ^ k
      < (2 ^ 53 : ℕ) * 2 ^ k :=
        mul_lt_mul_of_pos_right (by exact_mod_cast hm) (two_zpow_pos k)
    _ ≤ (2 ^ 53 : ℕ) * 2 ^ (971 : ℤ) :=
        mul_le_mul_of_nonneg_left (two_zpow_mono hk) (Nat.cast_nonneg _)
    _ = 2 ^ (1024 : ℤ) := by
        rw [show (1024 : ℤ) = 53 + 971 by norm_num, two_zpow_add]
        norm_num

/-- A full mantissa reaches `2 ^ 1024` past the greatest exponent. -/
theorem le_mul_two_zpow {m : ℕ} {k : ℤ} (hm : 2 ^ 52 ≤ m) (hk : 972 ≤ k) :
    (2 : ℚ) ^ (1024 : ℤ) ≤ m * 2 ^ k :=
  calc (2 : ℚ) ^ (1024 : ℤ)
      = (2 ^ 52 : ℕ) * 2 ^ (972 : ℤ) := by
        rw [show (1024 : ℤ) = 52 + 972 by norm_num, two_zpow_add]
        norm_num
    _ ≤ (2 ^ 52 : ℕ) * 2 ^ k :=
        mul_le_mul_of_nonneg_left (two_zpow_mono hk) (Nat.cast_nonneg _)
    _ ≤ m * 2 ^ k := mul_le_mul_of_nonneg_right (by exact_mod_cast hm) (two_zpow_pos k).le

theorem Finite.magnitude_lt (x : Finite) : x.magnitude < 2 ^ (1024 : ℤ) :=
  mul_two_zpow_lt x.canonical.1 x.canonical.2.2.1

/-- A scaled mantissa in range has a canonical form of the same magnitude. -/
theorem ofScaled_of_lt (s : Bool) {m : ℕ} {k : ℤ} (hm : m ≤ 2 ^ 53) (hk : -1074 ≤ k)
    (hfull : k ≠ -1074 → 2 ^ 52 ≤ m) (h : (m : ℚ) * 2 ^ k < 2 ^ (1024 : ℤ)) :
    ∃ x : Finite, ofScaled s m k = .finite x ∧ x.negative = s ∧ x.magnitude = m * 2 ^ k := by
  have hrange : m < 2 ^ 53 → k ≤ 971 := fun _ => by
    by_contra hgt
    exact absurd (le_mul_two_zpow (hfull (by omega)) (by omega)) (not_le.2 h)
  by_cases hlt : m < 2 ^ 53
  · have hcan : IsCanonical m k := ⟨hlt, hk, hrange hlt, or_iff_not_imp_left.2 hfull⟩
    exact ⟨⟨s, m, k, hcan⟩, dif_pos hcan, rfl, rfl⟩
  · -- The carry: `2 ^ 53` units are `2 ^ 52` units of the next exponent.
    obtain rfl : m = 2 ^ 53 := by omega
    have hcarry : ((2 ^ 53 : ℕ) : ℚ) * 2 ^ k = (2 ^ 52 : ℕ) * 2 ^ (k + 1) := by
      rw [two_zpow_add]
      norm_num
      ring
    have hk' : k + 1 ≤ 971 := by
      by_contra hgt
      exact absurd (le_mul_two_zpow (m := 2 ^ 52) (k := k + 1) le_rfl (by omega))
        (not_le.2 (hcarry ▸ h))
    have hcan : IsCanonical (2 ^ 53 / 2) (k + 1) :=
      ⟨by norm_num, by omega, hk', Or.inr (by norm_num)⟩
    refine ⟨⟨s, 2 ^ 53 / 2, k + 1, hcan⟩, ?_, rfl, ?_⟩
    · rw [ofScaled, dif_neg (fun hc => absurd hc.1 (by norm_num)), dif_pos hcan]
    · rw [hcarry]
      norm_num [Finite.magnitude]

/-- A scaled mantissa past the range is infinite. -/
theorem ofScaled_of_le (s : Bool) {m : ℕ} {k : ℤ} (hm : m ≤ 2 ^ 53)
    (h : (2 : ℚ) ^ (1024 : ℤ) ≤ m * 2 ^ k) : ofScaled s m k = .infinite s := by
  have hk : 971 ≤ k := by
    by_contra hlt
    have hbound : (m : ℚ) * 2 ^ k ≤ (2 ^ 53 : ℕ) * 2 ^ (970 : ℤ) :=
      mul_le_mul (by exact_mod_cast hm) (two_zpow_mono (by omega)) (two_zpow_pos k).le
        (Nat.cast_nonneg _)
    have htop : ((2 ^ 53 : ℕ) : ℚ) * 2 ^ (970 : ℤ) = 2 ^ (1023 : ℤ) := by
      rw [show (1023 : ℤ) = 53 + 970 by norm_num, two_zpow_add]
      norm_num
    exact absurd (h.trans (hbound.trans_eq htop)) (not_le.2 (two_zpow_lt (by norm_num)))
  have hfirst : ¬ IsCanonical m k := fun hc =>
    absurd (mul_two_zpow_lt hc.1 hc.2.2.1) (not_lt.2 h)
  have hsecond : ¬ IsCanonical (m / 2) (k + 1) := fun hc => absurd hc.2.2.1 (by omega)
  rw [ofScaled, dif_neg hfirst, dif_neg hsecond]

/-- Away from zero `ofMagnitude` scales and rounds. -/
theorem ofMagnitude_eq_ofScaled (s : Bool) {q : ℚ} (hq : 0 < q) :
    ofMagnitude s q = ofScaled s (scaledMantissa q) (gridExponent q) := by
  rw [ofMagnitude, if_neg hq.ne']
  rfl

/-- **Rounding within the range.** -/
theorem ofMagnitude_of_lt (s : Bool) {q : ℚ} (hq : 0 ≤ q) (h : nearest q < 2 ^ (1024 : ℤ)) :
    ∃ x : Finite, ofMagnitude s q = .finite x ∧ x.negative = s ∧ x.magnitude = nearest q := by
  rcases hq.eq_or_lt with rfl | hpos
  · exact ⟨⟨s, 0, -1074, by decide⟩, by simp [ofMagnitude, zero], rfl,
      by simp [Finite.magnitude, nearest_zero]⟩
  · rw [ofMagnitude_eq_ofScaled s hpos]
    exact ofScaled_of_lt s (scaledMantissa_le hq) (neg_le_gridExponent q)
      (le_scaledMantissa hpos) h

/-- **Rounding past the range.** -/
theorem ofMagnitude_of_le (s : Bool) {q : ℚ} (hq : 0 ≤ q) (h : (2 : ℚ) ^ (1024 : ℤ) ≤ nearest q) :
    ofMagnitude s q = .infinite s := by
  have hpos : 0 < q := by
    refine lt_of_le_of_ne hq fun hz => ?_
    rw [← hz, nearest_zero] at h
    exact absurd h (not_le.2 (two_zpow_pos _))
  rw [ofMagnitude_eq_ofScaled s hpos]
  exact ofScaled_of_le s (scaledMantissa_le hq) h

/-- The canonical form of a finite value is on the grid of its own magnitude. -/
theorem Finite.gridExponent_magnitude (x : Finite) (h : x.mantissa ≠ 0) :
    gridExponent x.magnitude = x.exponent := by
  obtain ⟨hm, hlow, -, hfull⟩ := x.canonical
  have hpos : 0 < x.magnitude :=
    mul_pos (by exact_mod_cast Nat.pos_of_ne_zero h) (two_zpow_pos _)
  have hlt : x.magnitude < 2 ^ (x.exponent + 53) := by
    rw [add_comm, two_zpow_add]
    exact mul_lt_mul_of_pos_right (by exact_mod_cast hm) (two_zpow_pos _)
  refine le_antisymm (gridExponent_le hpos hlow hlt) ?_
  rcases hfull with heq | hfull
  · exact heq ▸ neg_le_gridExponent _
  · have hle : (2 : ℚ) ^ (x.exponent + 52) ≤ x.magnitude := by
      rw [add_comm, two_zpow_add]
      exact mul_le_mul_of_nonneg_right (by exact_mod_cast hfull) (two_zpow_pos _).le
    have horder := le_binaryOrder hpos hle
    unfold gridExponent
    omega

/-- **A finite value is the rounding of its own magnitude.**  Hence a value is known by its sign
and its magnitude. -/
theorem ofMagnitude_magnitude (x : Finite) :
    ofMagnitude x.negative x.magnitude = .finite x := by
  by_cases h : x.mantissa = 0
  · have hexp : x.exponent = -1074 := x.canonical.2.2.2.resolve_right (by omega)
    obtain ⟨s, m, k, hcan⟩ := x
    subst h hexp
    simp [ofMagnitude, Finite.magnitude, zero]
  · have hpos : 0 < x.magnitude :=
      mul_pos (by exact_mod_cast Nat.pos_of_ne_zero h) (two_zpow_pos _)
    have hunits : x.magnitude / 2 ^ x.exponent = ((x.mantissa : ℤ) : ℚ) := by
      rw [Finite.magnitude, mul_div_cancel_right₀ _ (two_zpow_pos _).ne', Int.cast_natCast]
    have hmant : scaledMantissa x.magnitude = x.mantissa := by
      rw [scaledMantissa, x.gridExponent_magnitude h, hunits, roundHalfEven_intCast,
        Int.toNat_natCast]
    rw [ofMagnitude_eq_ofScaled _ hpos, hmant, x.gridExponent_magnitude h]
    exact dif_pos x.canonical

end Admission.Binary64
