import Mathlib.Data.List.TakeWhile
import Admission.Address.Reading
import Admission.Decimal.Reading
import Admission.Proofs.Binary64.Arithmetic

/-!
# Written integers

An integer is written as digits after a sign, which may be left out where it is a plus.  Read as a
floating point value, the same text gives the value nearest to the integer.

* `Decimal.Numeral` — a text that writes an integer, with its sign and digits;
* `exists_numeral_of_readInt?` — every text that is read as an integer is one;
* `Numeral.readBinary64?_eq` — what it reads as where real numbers are read;
* `toBounded_nearest_negative`, `le_toBounded_nearest` — what becomes of an integer that is read as
  a real number and made whole again.
-/

namespace Admission

/-! ## Made whole -/

namespace Binary64

theorem le_roundHalfAway {k : ℕ} {q : ℚ} (h : (k : ℚ) ≤ q) : (k : ℤ) ≤ roundHalfAway q := by
  have hq : ¬q < 0 := not_lt.mpr ((Nat.cast_nonneg k).trans h)
  rw [roundHalfAway, if_neg hq, Rat.le_floor_iff]
  push_cast
  linarith

theorem roundHalfAway_nonpos {q : ℚ} (h : q ≤ 0) : roundHalfAway q ≤ 0 := by
  rcases h.lt_or_eq with hlt | rfl
  · rw [roundHalfAway, if_pos hlt, Int.neg_nonpos_iff, Rat.le_floor_iff]
    push_cast
    linarith
  · decide +kernel

/-- A value with a minus sign becomes zero where no sign may stand. -/
theorem toBounded_ofMagnitude_negative (bound : ℕ) {q : ℚ} (hq : 0 ≤ q) :
    (ofMagnitude true q).toBounded bound roundHalfAway = 0 := by
  by_cases h : nearest q < 2 ^ (1024 : ℤ)
  · obtain ⟨x, hx, hsign, -⟩ := ofMagnitude_of_lt true hq h
    have hvalue : x.value ≤ 0 := by
      rw [Finite.value, if_pos hsign]
      linarith [x.magnitude_nonneg]
    have hround := roundHalfAway_nonpos hvalue
    rw [hx, toBounded, holdTo]
    omega
  · rw [ofMagnitude_of_le true hq (not_lt.mp h)]
    rfl

/-- Rounding leaves a magnitude above what lies below it on the grid. -/
theorem le_toBounded_ofMagnitude {bound k : ℕ} {q : ℚ} (hk : OnGrid k) (hbound : k ≤ bound)
    (h : (k : ℚ) ≤ q) : k ≤ (ofMagnitude false q).toBounded bound roundHalfAway := by
  have hq : 0 ≤ q := (Nat.cast_nonneg k).trans h
  by_cases hrange : nearest q < 2 ^ (1024 : ℤ)
  · obtain ⟨x, hx, hsign, hmagnitude⟩ := ofMagnitude_of_lt false hq hrange
    have hvalue : (k : ℚ) ≤ x.value := by
      rw [Finite.value_of_nonneg hsign, hmagnitude]
      exact hk.le_nearest (Nat.cast_nonneg k) h
    have hround := le_roundHalfAway hvalue
    rw [hx, toBounded, holdTo]
    omega
  · rw [ofMagnitude_of_le false hq (not_lt.mp hrange)]
    exact hbound

end Binary64

namespace Decimal

/-- A negative number is made zero where no sign may stand. -/
theorem toBounded_nearest_negative (bound digits : ℕ) (exponent : ℤ) :
    (nearest true digits exponent).toBounded bound Binary64.roundHalfAway = 0 := by
  have hzero : (Binary64.zero true).toBounded bound Binary64.roundHalfAway = 0 := by
    have hround := Binary64.roundHalfAway_nonpos
      (q := (⟨true, 0, -1074, by decide⟩ : Binary64.Finite).value) (by decide +kernel)
    rw [Binary64.zero, Binary64.toBounded, Binary64.holdTo]
    omega
  unfold nearest
  dsimp only
  split_ifs
  · exact hzero
  · rfl
  · exact hzero
  · exact Binary64.toBounded_ofMagnitude_negative bound (by positivity)

/-- An integer from `2 ^ 63` on stays there, whatever it is rounded to. -/
theorem le_toBounded_nearest {bound n : ℕ} (hbound : 2 ^ 63 ≤ bound) (hn : 2 ^ 63 ≤ n) :
    2 ^ 63 ≤ (nearest false n 0).toBounded bound Binary64.roundHalfAway := by
  have hgrid : Binary64.OnGrid ((2 ^ 63 : ℕ) : ℚ) := by
    have := Binary64.onGrid_two_zpow (k := 63) (by decide)
    norm_num at this ⊢
    exact this
  unfold nearest
  dsimp only
  split_ifs with hzero hhigh hlow
  · omega
  · exact hbound
  · omega
  · rw [zpow_zero, mul_one]
    exact Binary64.le_toBounded_ofMagnitude hgrid hbound (by exact_mod_cast hn)

/-! ## Numerals -/

/-- An integer with its sign. -/
def signed (negative : Bool) (magnitude : ℕ) : ℤ :=
  if negative then -magnitude else magnitude

/-- A text that writes an integer: a sign, or none, and then digits. -/
structure Numeral (text : List Char) (negative : Bool) (digits : List Char) : Prop where
  spelled : negative = true ∧ text = '-' :: digits ∨
    negative = false ∧ (text = '+' :: digits ∨ text = digits)
  nonempty : digits ≠ []
  all_digits : ∀ c ∈ digits, c.isDigit = true

theorem exists_numeral_of_readInt? {text : List Char} {v : ℤ} (h : readInt? text = some v) :
    ∃ negative digits, Numeral text negative digits ∧ v = signed negative (ofDigits digits) := by
  have hread : ∀ {negative : Bool} {digits : List Char},
      (if digits.isEmpty || !digits.all Char.isDigit then none
        else some (if negative then -(ofDigits digits : ℤ) else ofDigits digits)) = some v →
      digits ≠ [] ∧ (∀ c ∈ digits, c.isDigit = true) ∧ v = signed negative (ofDigits digits) := by
    intro negative digits h
    rw [Option.ite_none_left_eq_some] at h
    obtain ⟨hdigits, hv⟩ := h
    simp only [Bool.or_eq_true, Bool.not_eq_true', not_or, Bool.not_eq_true, Bool.not_eq_false,
      List.isEmpty_eq_false_iff, List.all_eq_true] at hdigits
    exact ⟨hdigits.1, hdigits.2, (Option.some.inj hv).symm⟩
  unfold readInt? at h
  split at h
  rename_i negative digits hsplit
  obtain ⟨hne, hall, hv⟩ := hread h
  refine ⟨negative, digits, ⟨?_, hne, hall⟩, hv⟩
  split at hsplit
  all_goals
    cases hsplit
    simp

theorem isDigit_toLower {c : Char} (h : c.isDigit = true) : c.toLower = c := by
  simp only [Char.isDigit, Bool.and_eq_true, decide_eq_true_eq] at h
  unfold Char.toLower
  split
  case isTrue hupper =>
    have h1 : c.val.toNat ≤ 57 := h.2
    have h2 : 65 ≤ c.val.toNat := hupper.1
    omega
  case isFalse => rfl

namespace Numeral

variable {text digits : List Char} {negative : Bool}

/-- The first digit. -/
theorem exists_cons (h : Numeral text negative digits) :
    ∃ c rest, digits = c :: rest ∧ c.isDigit = true := by
  obtain ⟨c, rest, rfl⟩ := List.exists_cons_of_ne_nil h.nonempty
  exact ⟨c, rest, rfl, h.all_digits c (by simp)⟩

/-- A numeral is no text that begins with anything else than a sign or a digit. -/
theorem head (h : Numeral text negative digits) :
    ∃ c rest, text = c :: rest ∧ (c = '-' ∨ c = '+' ∨ c.isDigit = true) := by
  obtain ⟨c, rest, rfl, hc⟩ := h.exists_cons
  obtain ⟨-, rfl⟩ | ⟨-, rfl | rfl⟩ := h.spelled
  · exact ⟨_, _, rfl, .inl rfl⟩
  · exact ⟨_, _, rfl, .inr (.inl rfl)⟩
  · exact ⟨_, _, rfl, .inr (.inr hc)⟩

theorem readMagnitude?_eq (h : Numeral text negative digits) :
    readMagnitude? negative digits = some (nearest negative (ofDigits digits) 0) := by
  obtain ⟨c, rest, hcons, hc⟩ := h.exists_cons
  have htake : digits.takeWhile Char.isDigit = digits :=
    List.takeWhile_eq_self_iff.mpr h.all_digits
  have hdrop : digits.dropWhile Char.isDigit = [] :=
    List.dropWhile_eq_nil_iff.mpr h.all_digits
  have hlower : digits.map Char.toLower = digits :=
    (List.map_congr_left fun d hd => isDigit_toLower (h.all_digits d hd)).trans (List.map_id _)
  have hword : ∀ word : String, word.toList.head?.any Char.isDigit = false →
      (String.ofList (digits.map Char.toLower) == word) = false := by
    intro word hhead
    rw [hlower, beq_eq_false_iff_ne]
    rintro rfl
    simp [hcons, hc] at hhead
  have hmantissa : readMantissa? digits = some (ofDigits digits, 0, []) := by
    unfold readMantissa?
    rw [htake, hdrop]
    simp [h.nonempty]
  unfold readMagnitude?
  simp only [hword "nan" rfl, hword "inf" rfl, hword "infinity" rfl,
    hmantissa, Bool.or_self, Bool.false_eq_true, if_false]

/-- Where real numbers are read, a numeral gives the value nearest to its integer. -/
theorem readBinary64?_eq (h : Numeral text negative digits) :
    readBinary64? text = some (nearest negative (ofDigits digits) 0) := by
  rw [← h.readMagnitude?_eq]
  obtain ⟨c, rest, hcons, hc⟩ := h.exists_cons
  obtain ⟨rfl, rfl⟩ | ⟨rfl, rfl | rfl⟩ := h.spelled
  · rfl
  · rfl
  · subst hcons
    have hminus : c ≠ '-' := by rintro rfl; revert hc; decide
    have hplus : c ≠ '+' := by rintro rfl; revert hc; decide
    unfold readBinary64?
    split
    · rename_i heq; exact absurd (List.cons.inj heq).1 hminus
    · rename_i heq; exact absurd (List.cons.inj heq).1 hplus
    · rfl

end Numeral

end Decimal
end Admission
