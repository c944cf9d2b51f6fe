import Admission.Proofs.Bucket.Conservation

/-!
# Fixed quotas

A bucket that never refills is a counter.  Its rate is a zero, of either sign, so that whatever
time has passed brings a signed zero more, and a count that is rounded once again is the same
count.  What a call takes off is taken off exactly, so after any number of calls the bucket holds
a whole number of tokens, one for each call that is still to be admitted.

* `Spent` — a bucket that never refills and was called so many times since it was full;
* `Spent.allow` — the next call, by its number;
* `Spent.answers`, `Spent.replay` — any calls after that, by induction;
* `Spent.nextAvailable` — a token is there at once, or never.
-/

namespace Admission

open Binary64

/-- A rate that is zero stands for zero, whatever its sign. -/
theorem Allowance.exactRate_of_isZero {a : Allowance} (h : a.rate.isZero = true) :
    a.exactRate = 0 := by
  obtain ⟨r, hr, hmag, -⟩ := a.exists_rate
  rw [hr, isZero, beq_iff_eq] at h
  rw [← hmag, Finite.magnitude, h, Nat.cast_zero, zero_mul]

namespace Bucket

/-- A bucket that never refills, and was called so many times since it was full: it holds a token
for each call that is still to be admitted. -/
structure Spent (b : Bucket) (calls : ℕ) : Prop where
  rate : b.allowance.rate.isZero = true
  holds : b.Holds ((b.allowance.burst.toNat - calls : ℕ) : ℚ)

variable {b : Bucket} {calls : ℕ}

theorem spent_full {a : Allowance} (h : a.rate.isZero = true) (start : Instant) :
    (full a start).Spent 0 :=
  ⟨h, holds_full a start⟩

namespace Spent

/-- Time brings nothing. -/
theorem refilled_eq (h : b.Spent calls) (now : Instant) :
    b.refilled ((b.allowance.burst.toNat - calls : ℕ) : ℚ) now =
      (b.allowance.burst.toNat - calls : ℕ) := by
  refine h.holds.refilled_of_no_gain ?_
  rw [Allowance.exactRate_of_isZero h.rate, mul_zero]

/-- **The next call is admitted by its number**, and one call more is spent. -/
theorem allow (h : b.Spent calls) (now : Instant) :
    (b.allow now).1 = decide (calls + 1 ≤ b.allowance.burst.toNat) ∧
      (b.allow now).2.Spent (calls + 1) := by
  obtain ⟨hgranted, hleft⟩ := h.holds.allow now
  rw [h.refilled_eq now] at hgranted hleft
  have hwhole : (1 : ℚ) ≤ (b.allowance.burst.toNat - calls : ℕ) ↔
      calls + 1 ≤ b.allowance.burst.toNat := by
    rw [Nat.one_le_cast]
    omega
  have hcount : (if (1 : ℚ) ≤ (b.allowance.burst.toNat - calls : ℕ)
      then ((b.allowance.burst.toNat - calls : ℕ) : ℚ) - 1
      else (b.allowance.burst.toNat - calls : ℕ)) =
      (b.allowance.burst.toNat - (calls + 1) : ℕ) := by
    split_ifs with hone
    · rw [← Nat.cast_pred (Nat.one_le_cast.1 hone), Nat.sub_sub]
    · -- Nothing is left, and so it stays.
      have hnone : b.allowance.burst.toNat - calls = b.allowance.burst.toNat - (calls + 1) := by
        rw [hwhole] at hone
        omega
      rw [hnone]
  refine ⟨?_, by rw [allow_allowance, h.rate], ?_⟩
  · rw [Bool.eq_iff_iff, hgranted, hwhole, decide_eq_true_iff]
  · rw [allow_allowance, ← hcount]
    exact hleft

/-- **Any calls after that are admitted by their numbers.** -/
theorem answers (h : b.Spent calls) (later : List Instant) :
    b.answers later = (List.range' (calls + 1) later.length).map
      fun call => decide (call ≤ b.allowance.burst.toNat) := by
  induction later generalizing b calls with
  | nil => rfl
  | cons now rest ih =>
    obtain ⟨hanswer, hspent⟩ := h.allow now
    have hrest := ih hspent
    rw [allow_allowance] at hrest
    rw [Bucket.answers, List.length_cons, List.range'_succ, List.map_cons, hanswer, hrest]

theorem replay (h : b.Spent calls) (later : List Instant) :
    (b.replay later).Spent (calls + later.length) := by
  induction later generalizing b calls with
  | nil => exact h
  | cons now rest ih =>
    have hrest := ih (h.allow now).2
    rwa [Nat.add_right_comm, Nat.add_assoc, ← List.length_cons] at hrest

/-- What is left: the quota less the calls that were admitted. -/
theorem tokens (h : b.Spent calls) :
    b.tokens.HasMagnitude
      (b.allowance.burst.toNat - (min calls b.allowance.burst.toNat : ℕ)) := by
  have hleft : b.allowance.burst.toNat - calls =
      b.allowance.burst.toNat - min calls b.allowance.burst.toNat := by
    omega
  rw [← Nat.cast_sub (min_le_right _ _), ← hleft]
  exact h.holds.1

/-- **A token is there at once, or never**, whenever somebody looks. -/
theorem nextAvailable (h : b.Spent calls) (now : Instant) :
    b.nextAvailable now = if calls < b.allowance.burst.toNat then some .zero else none := by
  have hcount := h.holds.tokensAt now
  rw [h.refilled_eq now] at hcount
  have htest : Binary64.ofNat 1 ≤ b.tokensAt now ↔ calls < b.allowance.burst.toNat := by
    rw [hasMagnitude_one.le_iff hcount, Nat.one_le_cast]
    omega
  unfold Bucket.nextAvailable
  dsimp only
  by_cases hleft : calls < b.allowance.burst.toNat
  · rw [if_pos (htest.2 hleft), if_pos hleft]
  · rw [if_neg (fun hone => hleft (htest.1 hone)), if_pos h.rate, if_neg hleft]

end Spent

/-! ## From a full bucket -/

/-- How many of the calls numbered up to `n` a quota admits. -/
theorem count_range'_le (quota n : ℕ) :
    ((List.range' 1 n).map fun call => decide (call ≤ quota)).count true = min n quota := by
  induction n with
  | zero => simp
  | succ n ih =>
    rw [List.range'_concat, List.map_append, List.count_append, ih, List.map_singleton,
      List.count_singleton]
    simp only [one_mul, beq_true, decide_eq_true_eq]
    split_ifs <;> omega

/-- As many calls are admitted as the quota and the number of calls allow. -/
theorem admitted_of_isZero {a : Allowance} (h : a.rate.isZero = true) (start : Instant)
    (calls : List Instant) :
    (full a start).admitted calls = min calls.length a.burst.toNat := by
  have hanswers := (spent_full h start).answers calls
  rw [admitted, hanswers]
  exact count_range'_le a.burst.toNat calls.length

end Bucket

end Admission
