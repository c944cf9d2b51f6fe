import Admission.Proofs.Bucket.Drift

/-!
# Polling a bucket

A client that is blocked may wait or poll.  For the exact account of a bucket the two are the
same: a denied call takes nothing, and what the account gains in two steps it gains in one.  The
bucket itself rounds its count at every call, so a denied call may move the count by its
rounding, and whoever polls may then be admitted a little later, or earlier, than whoever waits.

That is all a denied call can do.  Each call adds a `slip` to what the count may be off its
account; where the account is further from a whole token than the slips of a run so far, the run
decides as the account does.  Hence calls that were denied can be left out of a run without
changing any other answer, as long as no other call comes so close to a whole token.

* `Allowance.slip`, `Allowance.slips` — what one call, and a run of calls, may be off the account;
* `Bucket.abs_drift_le_slips` — the drift of any run, however far its instants are apart;
* `Bucket.answer_iff_of_clear` — a call that the account decides;
* `Allowance.Covers` — an account that was settled later, with nothing taken in between;
* `Bucket.answers_keptCalls` — denied calls left out;
* `Bucket.polling_delays_admission` — a call so close to a whole token that a poll is noticed.
-/

namespace Admission

open Binary64

namespace Allowance

theorem single_pos : 1 ≤ (1 : UInt32) := by
  decide

/-- Ten tokens a second, of which one is held. -/
def tenASecond : Allowance where
  rate := .ofNat 10
  burst := 1
  rate_finite := by decide +kernel
  rate_nonneg := by decide +kernel
  burst_pos := single_pos

/-! ## Slips -/

/-- What an account reaches by an instant, before it is held at the burst. -/
def reach (a : Allowance) (account : ℚ × Instant) (now : Instant) : ℚ :=
  account.1 + a.exactRate * account.2.forwardSeconds now

/-- What an account holds at an instant, before a token is taken. -/
def due (a : Allowance) (account : ℚ × Instant) (now : Instant) : ℚ :=
  min (a.burst.toNat : ℚ) (a.reach account now)

/-- The most that one refill is off its account.  A refill that brings nothing is exact; one over
more than 63 bits of nanoseconds counts whole seconds. -/
def slip (a : Allowance) (start stop : Instant) : ℚ :=
  if a.exactRate * start.forwardSeconds stop = 0 then 0
  else if start.nanosecondsTo stop ≤ 9223372036854775807 then a.driftPerCall
  else a.burst.toNat / 2 ^ 32

/-- The most that a run of calls is off its account. -/
def slips (a : Allowance) : Instant → List Instant → ℚ
  | _, [] => 0
  | start, now :: rest => a.slip start now + slips a now rest

/-- Whether a count stands clear of a whole token, if it may be off by so much. -/
def Clear (count margin : ℚ) : Prop :=
  1 + margin ≤ count ∨ count + margin < 1

instance (count margin : ℚ) : Decidable (Clear count margin) :=
  inferInstanceAs (Decidable (_ ∨ _))

theorem Clear.mono {count margin less : ℚ} (h : Clear count margin) (hle : less ≤ margin) :
    Clear count less := by
  rcases h with hover | hunder
  · exact .inl (by linarith)
  · exact .inr (by linarith)

theorem due_le_burst (a : Allowance) (account : ℚ × Instant) (now : Instant) :
    a.due account now ≤ a.burst.toNat :=
  min_le_left _ _

theorem slip_nonneg (a : Allowance) (start stop : Instant) : 0 ≤ a.slip start stop := by
  unfold slip
  split_ifs
  · exact le_refl _
  · exact a.driftPerCall_nonneg
  · positivity

theorem slips_nonneg (a : Allowance) (start : Instant) (calls : List Instant) :
    0 ≤ a.slips start calls := by
  induction calls generalizing start with
  | nil => exact le_refl _
  | cons now rest ih => exact add_nonneg (a.slip_nonneg start now) (ih now)

theorem slips_concat (a : Allowance) {start last : Instant} {calls : List Instant}
    (hlast : (start :: calls).getLast? = some last) (now : Instant) :
    a.slips start (calls ++ [now]) = a.slips start calls + a.slip last now := by
  induction calls generalizing start with
  | nil =>
    obtain rfl : start = last := by simpa using hlast
    simp [slips]
  | cons first rest ih =>
    rw [List.getLast?_cons_cons] at hlast
    rw [List.cons_append, slips, slips, ih hlast, add_assoc]

end Allowance

/-! ## The drift of any run -/

namespace Bucket

variable {b : Bucket} {t : ℚ}

/-- A refill that brings nothing leaves the count as it is. -/
theorem Holds.refillsWithin_of_no_gain (h : b.Holds t) {now : Instant}
    (hgain : b.allowance.exactRate * b.lastUpdate.forwardSeconds now = 0) :
    b.RefillsWithin t now 0 := by
  have hcounted := b.lastUpdate.countedSeconds_nonneg now
  have hproduct : b.lastUpdate.countedSeconds now * b.allowance.exactRate = 0 := by
    rcases mul_eq_zero.1 hgain with hrate | htime
    · rw [hrate, mul_zero]
    · have hle := b.lastUpdate.countedSeconds_le now
      rw [htime, zero_mul] at hle
      rw [le_antisymm hle hcounted, zero_mul]
  right
  rw [hproduct, hgain, nearest_zero, add_zero, h.1.onGrid.nearest_eq, sub_self, abs_zero]

/-- Over a long time less than a second is lost.  That is a small part of the time, hence of the
gain. -/
theorem refillsWithin_of_far (b : Bucket) (ht : 0 ≤ t) (hburst : t ≤ b.allowance.burst.toNat)
    {now : Instant} (hfar : 9223372036854775807 < b.lastUpdate.nanosecondsTo now) :
    b.RefillsWithin t now (b.allowance.burst.toNat / 2 ^ 32) := by
  have hone := b.allowance.one_le_burst
  have hrate := b.allowance.exactRate_nonneg
  obtain ⟨hlong, hhigh⟩ := Instant.countedSeconds_mem_of_lt hfar
  have hlow := Instant.forwardSeconds_le_countedSeconds_add_one hfar
  have hslow : b.allowance.exactRate * 9223372036 ≤
      b.allowance.exactRate * b.lastUpdate.forwardSeconds now :=
    mul_le_mul_of_nonneg_left (by linarith) hrate
  have hgain : |b.lastUpdate.countedSeconds now * b.allowance.exactRate -
        b.allowance.exactRate * b.lastUpdate.forwardSeconds now| ≤
      1 / 9223372036 * (b.allowance.exactRate * b.lastUpdate.forwardSeconds now) := by
    have h₁ := mul_le_mul_of_nonneg_left hlow hrate
    have h₂ := mul_le_mul_of_nonneg_left hhigh hrate
    rw [abs_le]
    constructor <;> linarith
  refine (b.refillsWithin_of_gain ht hburst (by norm_num) (by norm_num) hgain).mono ?_
  linarith

/-- **The error of any refill** is at most its slip. -/
theorem Holds.refillsWithin_slip (h : b.Holds t) (now : Instant) :
    b.RefillsWithin t now (b.allowance.slip b.lastUpdate now) := by
  unfold Allowance.slip
  split_ifs with hgain hnear
  · exact h.refillsWithin_of_no_gain hgain
  · exact b.refillsWithin_of_near h.nonneg h.le_burst hnear
  · exact b.refillsWithin_of_far h.nonneg h.le_burst (not_le.1 hnear)

/-- A whole token that is there by more than the error of its refill is found. -/
theorem RefillsWithin.one_le_refilled {margin : ℚ} {now : Instant}
    (h : b.RefillsWithin t now margin)
    (hreach : 1 + margin ≤ b.allowance.reach (t, b.lastUpdate) now) : 1 ≤ b.refilled t now := by
  have hone := b.allowance.one_le_burst
  rcases h with ⟨hfills, -⟩ | herror
  · rw [refilled_eq_burst hfills]
    exact hone
  · refine le_min ?_ hone
    have hlow := (abs_le.1 herror).1
    unfold Allowance.reach at hreach
    linarith

/-- A token that is not whole by more than the error of its refill is not found. -/
theorem RefillsWithin.refilled_lt_one {margin : ℚ} {now : Instant}
    (h : b.RefillsWithin t now margin) (hmargin : 0 ≤ margin)
    (hreach : b.allowance.reach (t, b.lastUpdate) now + margin < 1) : b.refilled t now < 1 := by
  have herror := (abs_le.1 (h.abs_refilled_sub_le hmargin)).2
  have hmin := min_le_right (b.allowance.burst.toNat : ℚ)
    (t + b.allowance.exactRate * b.lastUpdate.forwardSeconds now)
  unfold Allowance.reach at hreach
  dsimp only at hreach
  linarith

/-- Two accounts that were settled together come no further apart. -/
theorem abs_due_sub_due_le (a : Allowance) (x y : ℚ) (settled now : Instant) :
    |a.due (x, settled) now - a.due (y, settled) now| ≤ |x - y| := by
  have hxy := min_add_sub_min_add_le a.burst.toNat (a.exactRate * settled.forwardSeconds now) x y
  have hyx := min_add_sub_min_add_le a.burst.toNat (a.exactRate * settled.forwardSeconds now) y x
  have hx : max 0 (x - y) ≤ |x - y| := max_le (abs_nonneg _) (le_abs_self _)
  have hy : max 0 (y - x) ≤ |x - y| := max_le (abs_nonneg _) (by
    rw [abs_sub_comm]
    exact le_abs_self _)
  rw [abs_le]
  unfold Allowance.due Allowance.reach
  dsimp only
  constructor <;> linarith

/-- The exact account of a run, as of its last call. -/
def accountOf (a : Allowance) (start : Instant) (calls : List Instant) : ℚ × Instant :=
  a.account start (callsFrom a start calls)

theorem accountOf_concat (a : Allowance) (start : Instant) (calls : List Instant) (now : Instant) :
    accountOf a start (calls ++ [now]) =
      (a.due (accountOf a start calls) now -
        (if (((full a start).replay calls).allow now).1 then 1 else 0), now) := by
  rw [accountOf, callsFrom_concat, Allowance.account, List.foldl_append]
  rfl

theorem accountOf_snd (a : Allowance) (start : Instant) (calls : List Instant) :
    (accountOf a start calls).2 = ((full a start).replay calls).lastUpdate :=
  account_lastUpdate a start calls

/-- What a run refills to is off its account by at most what it was off before, and a slip. -/
theorem abs_refilled_sub_due_le (a : Allowance) (start : Instant) {calls : List Instant}
    (ht : ((full a start).replay calls).Holds t) (now : Instant) :
    |((full a start).replay calls).refilled t now - a.due (accountOf a start calls) now| ≤
      |drift a start calls| + a.slip ((full a start).replay calls).lastUpdate now := by
  have hslip : |((full a start).replay calls).refilled t now -
      ((full a start).replay calls).allowance.due
        (t, ((full a start).replay calls).lastUpdate) now| ≤ _ :=
    (ht.refillsWithin_slip now).abs_refilled_sub_le (Allowance.slip_nonneg _ _ _)
  have happart := abs_due_sub_due_le a t (accountOf a start calls).1
    (accountOf a start calls).2 now
  have hallowance : ((full a start).replay calls).allowance = a :=
    replay_allowance (full a start) calls
  have hdrift : drift a start calls = t - (accountOf a start calls).1 := by
    rw [drift, ht.toRat_tokens, accountOf]
  rw [hallowance, ← accountOf_snd] at hslip
  rw [hdrift, ← accountOf_snd]
  calc |((full a start).replay calls).refilled t now - a.due (accountOf a start calls) now|
      ≤ |((full a start).replay calls).refilled t now -
            a.due (t, (accountOf a start calls).2) now| +
          |a.due (t, (accountOf a start calls).2) now - a.due (accountOf a start calls) now| :=
        abs_sub_le _ _ _
    _ ≤ |t - (accountOf a start calls).1| + a.slip (accountOf a start calls).2 now := by linarith

/-- **The drift of any run** is at most the sum of its slips. -/
theorem abs_drift_le_slips (a : Allowance) (start : Instant) (calls : List Instant) :
    |drift a start calls| ≤ a.slips start calls := by
  induction calls using List.reverseRecOn with
  | nil =>
    rw [drift_nil, abs_zero]
    exact le_refl _
  | append_singleton earlier now ih =>
    obtain ⟨t, ht⟩ := exists_holds_replay a start earlier
    obtain ⟨left, hleft, hkept⟩ := ht.allow_conserves now
    have herror := abs_refilled_sub_due_le a start ht now
    -- The bucket and the account give away the same token, or none.
    have hdrift : drift a start (earlier ++ [now]) =
        ((full a start).replay earlier).refilled t now - a.due (accountOf a start earlier) now := by
      rw [drift, replay_concat, hleft.toRat_tokens, ← hkept]
      show left - (accountOf a start (earlier ++ [now])).1 = _
      rw [accountOf_concat]
      ring
    rw [a.slips_concat (getLast?_eq_lastUpdate a start earlier), hdrift]
    linarith

/-- **A call that the account decides.**  It comes when the account is clear of a whole token, by
more than the slips of the run so far. -/
theorem answer_iff_of_clear (a : Allowance) (start : Instant) {calls : List Instant}
    {now : Instant} (hclear : Allowance.Clear (a.reach (accountOf a start calls) now)
      (a.slips start (calls ++ [now]))) :
    (((full a start).replay calls).allow now).1 = true ↔
      1 ≤ a.reach (accountOf a start calls) now := by
  obtain ⟨t, ht⟩ := exists_holds_replay a start calls
  have hrefill := ht.refillsWithin_slip now
  have hslip := a.slip_nonneg ((full a start).replay calls).lastUpdate now
  have hallowance : ((full a start).replay calls).allowance = a :=
    replay_allowance (full a start) calls
  have hdrift := abs_drift_le_slips a start calls
  have happart : a.reach (t, ((full a start).replay calls).lastUpdate) now =
      a.reach (accountOf a start calls) now + drift a start calls := by
    rw [drift, ht.toRat_tokens, Allowance.reach, Allowance.reach, accountOf_snd]
    show _ = (accountOf a start calls).1 + _ + (t - (accountOf a start calls).1)
    ring
  rw [a.slips_concat (getLast?_eq_lastUpdate a start calls)] at hclear
  rw [hallowance] at hrefill
  obtain ⟨hlow, hhigh⟩ := abs_le.1 hdrift
  have hsum := (abs_nonneg _).trans hdrift
  rw [(ht.allow now).1]
  rcases hclear with hover | hunder
  · have hwhole := hrefill.one_le_refilled (by rw [hallowance, happart]; linarith)
    exact iff_of_true hwhole (by linarith)
  · have hpart := hrefill.refilled_lt_one hslip (by rw [hallowance, happart]; linarith)
    exact iff_of_false (not_le.2 hpart) (by linarith)

end Bucket

/-! ## Leaving out denied calls -/

/-- An account covers another one if it is the other one brought up to a later instant, with
nothing taken in between. -/
structure Allowance.Covers (a : Allowance) (later earlier : ℚ × Instant) : Prop where
  order : earlier.2.sinceEpoch ≤ later.2.sinceEpoch
  count : later.1 = a.due earlier later.2

namespace Allowance

variable {a : Allowance} {later earlier : ℚ × Instant} {now : Instant}

theorem covers_refl {account : ℚ × Instant} (h : account.1 ≤ a.burst.toNat) :
    a.Covers account account where
  order := le_refl _
  count := by
    rw [due, reach, Instant.forwardSeconds_eq_zero (le_refl _), mul_zero, add_zero,
      min_eq_right h]

/-- What is gained in two steps is gained in one, but for what the burst did not let in before. -/
theorem Covers.reach_eq (h : a.Covers later earlier) (hnow : later.2.sinceEpoch ≤ now.sinceEpoch) :
    a.reach later now = min (a.burst.toNat + a.exactRate * later.2.forwardSeconds now)
      (a.reach earlier now) := by
  have htime := Instant.forwardSeconds_trans h.order hnow
  rw [reach, h.count, due, ← min_add_add_right, reach, reach, ← htime, mul_add, add_assoc]

/-- **What is gained in two steps is gained in one.** -/
theorem Covers.due_eq (h : a.Covers later earlier) (hnow : later.2.sinceEpoch ≤ now.sinceEpoch) :
    a.due later now = a.due earlier now := by
  have hgain := a.gain_nonneg later.2 now
  rw [due, h.reach_eq hnow, due, ← min_assoc, min_eq_left (le_add_of_nonneg_right hgain)]

/-- An account that is clear of a whole token is so too when it is not brought up in between, and
on the same side. -/
theorem Covers.clear (h : a.Covers later earlier) (hnow : later.2.sinceEpoch ≤ now.sinceEpoch)
    {margin : ℚ} (hmargin : 0 ≤ margin) (hclear : Clear (a.reach later now) margin) :
    Clear (a.reach earlier now) margin ∧
      (1 ≤ a.reach earlier now ↔ 1 ≤ a.reach later now) := by
  have hone := a.one_le_burst
  have hgain := a.gain_nonneg later.2 now
  have hreach := h.reach_eq hnow
  rcases hclear with hover | hunder
  · have hle : a.reach later now ≤ a.reach earlier now := hreach ▸ min_le_right _ _
    exact ⟨.inl (hover.trans hle), iff_of_true (by linarith) (by linarith)⟩
  · -- Below a token the burst has held nothing back.
    have heq : a.reach later now = a.reach earlier now := by
      rcases min_choice (a.burst.toNat + a.exactRate * later.2.forwardSeconds now)
        (a.reach earlier now) with hcap | hfree
      · exact absurd (hreach.trans hcap) (by intro hcapped; linarith)
      · exact hreach.trans hfree
    rw [← heq]
    exact ⟨.inr hunder, Iff.rfl⟩

/-- A denied call covers what came before it. -/
theorem Covers.deny (h : a.Covers later earlier) (hnow : later.2.sinceEpoch ≤ now.sinceEpoch) :
    a.Covers (a.due later now, now) earlier where
  order := h.order.trans hnow
  count := h.due_eq hnow

end Allowance

namespace Bucket

/-- The calls of a run that are not left out; those that are left out are marked. -/
def keptCalls (calls : List (Instant × Bool)) : List Instant :=
  (calls.filter fun call => !call.2).map Prod.fst

/-- The answers of a run to the calls that are not left out. -/
def keptAnswers (b : Bucket) (calls : List (Instant × Bool)) : List Bool :=
  ((calls.zip (b.answers (calls.map Prod.fst))).filter fun call => !call.1.2).map Prod.snd

/-- Whether all that is left out was denied. -/
def LeavesOutDenied (b : Bucket) (calls : List (Instant × Bool)) : Prop :=
  ∀ call ∈ calls.zip (b.answers (calls.map Prod.fst)), call.1.2 = true → call.2 = false

instance (b : Bucket) (calls : List (Instant × Bool)) : Decidable (b.LeavesOutDenied calls) :=
  inferInstanceAs (Decidable (∀ call ∈ _, _))

/-- Whether the account of a run stands clear of a whole token at every call that is kept, by the
slips of the run up to that call, and by those of what is kept of it. -/
def KeepsClear (a : Allowance) (start : Instant) (calls : List (Instant × Bool)) : Prop :=
  ∀ i, (h : i < calls.length) → calls[i].2 = false →
    Allowance.Clear (a.reach (accountOf a start ((calls.take i).map Prod.fst)) calls[i].1)
      (max (a.slips start ((calls.take (i + 1)).map Prod.fst))
        (a.slips start (keptCalls (calls.take (i + 1)))))

instance (a : Allowance) (start : Instant) (calls : List (Instant × Bool)) :
    Decidable (KeepsClear a start calls) :=
  inferInstanceAs (Decidable (∀ i, (h : i < calls.length) → _))

theorem zip_answers_concat (b : Bucket) (calls : List (Instant × Bool)) (call : Instant × Bool) :
    (calls ++ [call]).zip (b.answers ((calls ++ [call]).map Prod.fst)) =
      calls.zip (b.answers (calls.map Prod.fst)) ++
        [(call, ((b.replay (calls.map Prod.fst)).allow call.1).1)] := by
  rw [List.map_append, List.map_singleton, answers_concat,
    List.zip_append (by rw [length_answers, List.length_map])]
  rfl

theorem keptCalls_concat_true (calls : List (Instant × Bool)) (now : Instant) :
    keptCalls (calls ++ [(now, true)]) = keptCalls calls := by
  simp [keptCalls]

theorem keptCalls_concat_false (calls : List (Instant × Bool)) (now : Instant) :
    keptCalls (calls ++ [(now, false)]) = keptCalls calls ++ [now] := by
  simp [keptCalls]

theorem keptAnswers_concat_true (b : Bucket) (calls : List (Instant × Bool)) (now : Instant) :
    b.keptAnswers (calls ++ [(now, true)]) = b.keptAnswers calls := by
  rw [keptAnswers, zip_answers_concat]
  simp [keptAnswers]

theorem keptAnswers_concat_false (b : Bucket) (calls : List (Instant × Bool)) (now : Instant) :
    b.keptAnswers (calls ++ [(now, false)]) =
      b.keptAnswers calls ++ [((b.replay (calls.map Prod.fst)).allow now).1] := by
  rw [keptAnswers, zip_answers_concat]
  simp [keptAnswers]

theorem KeepsClear.of_append {a : Allowance} {start : Instant} {calls more : List (Instant × Bool)}
    (h : KeepsClear a start (calls ++ more)) : KeepsClear a start calls := by
  intro i hi hkept
  have hlonger : i < (calls ++ more).length := by
    rw [List.length_append]
    omega
  have hentry : (calls ++ more)[i] = calls[i] := List.getElem_append_left hi
  have hclear := h i hlonger (by rw [hentry]; exact hkept)
  rwa [hentry, List.take_append_of_le_length hi.le, List.take_append_of_le_length hi] at hclear

/-- The last call of a run, if it is kept. -/
theorem KeepsClear.last {a : Allowance} {start : Instant} {earlier : List (Instant × Bool)}
    {now : Instant} (h : KeepsClear a start (earlier ++ [(now, false)])) :
    Allowance.Clear (a.reach (accountOf a start (earlier.map Prod.fst)) now)
      (max (a.slips start (earlier.map Prod.fst ++ [now]))
        (a.slips start (keptCalls earlier ++ [now]))) := by
  have hclear := h earlier.length (by simp) (by simp)
  have htake : (earlier ++ [(now, false)]).take (earlier.length + 1) = earlier ++ [(now, false)] :=
    List.take_of_length_le (by simp)
  rw [htake, keptCalls_concat_false, List.map_append, List.map_singleton] at hclear
  simpa using hclear

/-- **One call more.**  The run with all its calls and the run without those that are left out
keep giving the same answers, and the account of the first covers that of the second. -/
theorem covers_concat {a : Allowance} {start : Instant} {earlier : List (Instant × Bool)}
    {call : Instant × Bool}
    (hforward : ((earlier ++ [call]).map Prod.fst).Pairwise
      fun s t => s.sinceEpoch ≤ t.sinceEpoch)
    (hdenied : (full a start).LeavesOutDenied (earlier ++ [call]))
    (hclear : KeepsClear a start (earlier ++ [call]))
    (hcovers : a.Covers (accountOf a start (earlier.map Prod.fst))
      (accountOf a start (keptCalls earlier)))
    (hanswers : (full a start).answers (keptCalls earlier) = (full a start).keptAnswers earlier) :
    a.Covers (accountOf a start ((earlier ++ [call]).map Prod.fst))
        (accountOf a start (keptCalls (earlier ++ [call]))) ∧
      (full a start).answers (keptCalls (earlier ++ [call])) =
        (full a start).keptAnswers (earlier ++ [call]) := by
  obtain ⟨now, marked⟩ := call
  -- The first call may come before the bucket was made; every other one comes after the last.
  have horder : earlier = [] ∨
      (accountOf a start (earlier.map Prod.fst)).2.sinceEpoch ≤ now.sinceEpoch := by
    rcases List.eq_nil_or_concat' earlier with rfl | ⟨before, last, rfl⟩
    · exact .inl rfl
    · right
      rw [List.map_append, List.map_singleton, accountOf_concat]
      rw [List.map_append, List.pairwise_append] at hforward
      exact hforward.2.2 _ (by simp) now (by simp)
  rw [List.map_append, List.map_singleton, accountOf_concat]
  cases marked with
  | true =>
    have hanswer : (((full a start).replay (earlier.map Prod.fst)).allow now).1 = false := by
      refine hdenied ((now, true), _) ?_ rfl
      rw [zip_answers_concat]
      exact List.mem_concat_self
    rcases horder with rfl | hnow
    · exact absurd ((allow_full a start now).symm.trans hanswer) (by decide)
    · rw [keptCalls_concat_true, keptAnswers_concat_true, hanswer, if_neg Bool.false_ne_true,
        sub_zero]
      exact ⟨hcovers.deny hnow, hanswers⟩
  | false =>
    have hmargin := hclear.last
    have hdue : a.due (accountOf a start (earlier.map Prod.fst)) now =
        a.due (accountOf a start (keptCalls earlier)) now := by
      rcases horder with rfl | hnow
      · rfl
      · exact hcovers.due_eq hnow
    have hkept : Allowance.Clear (a.reach (accountOf a start (keptCalls earlier)) now)
          (a.slips start (keptCalls earlier ++ [now])) ∧
        (1 ≤ a.reach (accountOf a start (keptCalls earlier)) now ↔
          1 ≤ a.reach (accountOf a start (earlier.map Prod.fst)) now) := by
      have hclear' := hmargin.mono (le_max_right _ _)
      rcases horder with rfl | hnow
      · exact ⟨hclear', Iff.rfl⟩
      · exact hcovers.clear hnow (a.slips_nonneg _ _) hclear'
    have hsame : (((full a start).replay (earlier.map Prod.fst)).allow now).1 =
        (((full a start).replay (keptCalls earlier)).allow now).1 := by
      rw [Bool.eq_iff_iff, answer_iff_of_clear a start (hmargin.mono (le_max_left _ _)),
        answer_iff_of_clear a start hkept.1, hkept.2]
    rw [keptCalls_concat_false, keptAnswers_concat_false, answers_concat, hanswers, hsame,
      accountOf_concat, hdue]
    refine ⟨Allowance.covers_refl ?_, rfl⟩
    have hroom := a.due_le_burst (accountOf a start (keptCalls earlier)) now
    dsimp only
    split_ifs
    · linarith
    · linarith

/-- **Denied calls left out.**  Of a run of calls in order of time, from a full bucket, denied
calls may be left out: the other calls are answered as they were, provided that none of them comes
when the exact account is so close to a whole token that the slips of the run, or of what is kept
of it, could decide. -/
theorem answers_keptCalls (a : Allowance) (start : Instant) {calls : List (Instant × Bool)}
    (hforward : (calls.map Prod.fst).Pairwise fun s t => s.sinceEpoch ≤ t.sinceEpoch)
    (hdenied : (full a start).LeavesOutDenied calls) (hclear : KeepsClear a start calls) :
    (full a start).answers (keptCalls calls) = (full a start).keptAnswers calls := by
  have hrun : a.Covers (accountOf a start (calls.map Prod.fst))
      (accountOf a start (keptCalls calls)) ∧
      (full a start).answers (keptCalls calls) = (full a start).keptAnswers calls := by
    induction calls using List.reverseRecOn with
    | nil => exact ⟨Allowance.covers_refl (le_refl _), rfl⟩
    | append_singleton earlier call ih =>
      have hforward' := hforward
      rw [List.map_append, List.pairwise_append] at hforward'
      have hdenied' : (full a start).LeavesOutDenied earlier := by
        intro entry hentry
        refine hdenied entry ?_
        rw [zip_answers_concat]
        exact List.mem_append_left _ hentry
      obtain ⟨hcovers, hanswers⟩ := ih hforward'.1 hdenied' hclear.of_append
      exact covers_concat hforward hdenied hclear hcovers hanswers
  exact hrun.2

/-- Ten tokens a second: after the first call a poll is denied, and left out. -/
theorem answers_keptCalls_of_one_poll :
    let calls : List (Instant × Bool) :=
      [(.epoch, false), (⟨25000000, by decide⟩, true), (⟨30000000, by decide⟩, false),
        (⟨200000000, by decide⟩, false)]
    ((calls.map Prod.fst).Pairwise fun s t => s.sinceEpoch ≤ t.sinceEpoch) ∧
      (full .tenASecond .epoch).LeavesOutDenied calls ∧ KeepsClear .tenASecond .epoch calls ∧
      (full .tenASecond .epoch).answers (keptCalls calls) =
        (full .tenASecond .epoch).keptAnswers calls ∧
      (full .tenASecond .epoch).keptAnswers calls = [true, false, true] := by
  intro calls
  have hforward : (calls.map Prod.fst).Pairwise fun s t => s.sinceEpoch ≤ t.sinceEpoch := by decide
  have hdenied : (full .tenASecond .epoch).LeavesOutDenied calls := by decide +kernel
  have hclear : KeepsClear .tenASecond .epoch calls := by decide +kernel
  exact ⟨hforward, hdenied, hclear, answers_keptCalls .tenASecond .epoch hforward hdenied hclear,
    by decide +kernel⟩

/-- **A poll can be noticed.**  At ten tokens a second the token is whole after a tenth of a
second for who waits; who has polled after a hundredth has rounded twice, and is denied. -/
theorem polling_delays_admission :
    let calls : List (Instant × Bool) :=
      [(.epoch, false), (⟨10000000, by decide⟩, true), (⟨100000000, by decide⟩, false)]
    ((calls.map Prod.fst).Pairwise fun s t => s.sinceEpoch ≤ t.sinceEpoch) ∧
      (full .tenASecond .epoch).LeavesOutDenied calls ∧
      (full .tenASecond .epoch).keptAnswers calls = [true, false] ∧
      (full .tenASecond .epoch).answers (keptCalls calls) = [true, true] := by
  decide +kernel

end Bucket

end Admission
