import Admission.Reclaimer
import Mathlib.Data.List.Chain
import Mathlib.Logic.Function.Iterate
import Mathlib.Order.Bounds.Defs

/-!
# Ticks that come late

A ticker that fires late puts its next tick a whole period after that moment, unless it was late
by no more than its tolerance: then the schedule stands and the next tick comes early by as much.
So the time from one tick to the next due time is a period, short of the tolerance at most, and
this is all that a ticker has to be known by.

* `Ticker.Paced` — how the due time follows the last tick;
* `Paced.fire` — a tick that is due keeps the pace;
* `Paced.catchUp` — so do all the ticks up to a moment, and none that is due is left out;
* `isLeast_length_catchUp` — catching up is firing until nothing is due, which ends;
* `length_catchUp_jumping_le`, `due_catchUp_of_punctual` — how many ticks that are.
-/

namespace Admission.Ticker

variable {t : Ticker} {passage : Passage} {target last moment : Nat}

@[simp] theorem fire_period (t : Ticker) (moment : Nat) : (t.fire moment).period = t.period := by
  unfold fire
  split <;> rfl

@[simp] theorem fire_tolerance (t : Ticker) (moment : Nat) :
    (t.fire moment).tolerance = t.tolerance := by
  unfold fire
  split <;> rfl

/-- A tick that is not late beyond the tolerance leaves the schedule as it is. -/
theorem due_fire_of_punctual (h : moment ≤ t.due + t.tolerance.nanoseconds) :
    (t.fire moment).due = t.due + t.period.nanoseconds := by
  unfold fire
  rw [if_neg (by omega)]

/-- A tick that is too late starts the schedule anew. -/
theorem due_fire_of_late (h : t.due + t.tolerance.nanoseconds < moment) :
    (t.fire moment).due = moment + t.period.nanoseconds := by
  unfold fire
  rw [if_pos h]

/-- A tick that is due fires when it is due or later, and not after the target. -/
theorem due_le_moment (passage : Passage) (h : t.due ≤ target) :
    t.due ≤ t.moment passage target ∧ t.moment passage target ≤ target := by
  cases passage with
  | running => exact ⟨le_refl _, h⟩
  | jumping => exact ⟨h, le_refl _⟩

/-- A tick that is due fires, and then the rest of them. -/
theorem catchUp_of_due (h : t.due ≤ target) :
    t.catchUp passage target =
      (t.moment passage target ::
          ((t.fire (t.moment passage target)).catchUp passage target).1,
        ((t.fire (t.moment passage target)).catchUp passage target).2) := by
  rw [catchUp, if_pos h]

theorem catchUp_of_not_due (h : ¬ t.due ≤ target) : t.catchUp passage target = ([], t) := by
  rw [catchUp, if_neg h]

/-! ## The pace -/

/-- The next tick is due a period after the last one, and earlier by no more than the
tolerance. -/
structure Paced (t : Ticker) (last : Nat) : Prop where
  due_le : t.due ≤ last + t.period.nanoseconds
  le_due : last + t.period.nanoseconds ≤ t.due + t.tolerance.nanoseconds

/-- **A tick keeps the pace.** -/
theorem Paced.fire (hdue : t.due ≤ moment) : (t.fire moment).Paced moment := by
  by_cases hlate : t.due + t.tolerance.nanoseconds < moment
  · have h := due_fire_of_late hlate
    constructor <;> simp only [fire_period, fire_tolerance] <;> omega
  · have h := due_fire_of_punctual (Nat.le_of_not_lt hlate)
    constructor <;> simp only [fire_period, fire_tolerance] <;> omega

/-- Two successive ticks are a period apart, short of the tolerance at most. -/
def Apart (t : Ticker) (earlier later : Nat) : Prop :=
  earlier + t.period.nanoseconds ≤ later + t.tolerance.nanoseconds

/-- Ticks up to a moment, and the ticker after them.  They fire no earlier than due and no later
than the moment, apart from one another and from the tick before them; after them nothing is due,
and the pace is kept. -/
structure CaughtUp (t : Ticker) (last target : Nat) (ticks : List Nat) (after : Ticker) :
    Prop where
  period : after.period = t.period
  tolerance : after.tolerance = t.tolerance
  due_le : ∀ tick ∈ ticks, t.due ≤ tick
  le_target : ∀ tick ∈ ticks, tick ≤ target
  apart : (last :: ticks).IsChain t.Apart
  grows : t.due ≤ after.due
  past : target < after.due
  paced : after.Paced (ticks.getLastD last)

/-- A ticker with nothing due has caught up. -/
theorem caughtUp_nil (h : t.Paced last) (hpast : target < t.due) :
    t.CaughtUp last target [] t where
  period := rfl
  tolerance := rfl
  due_le := by
    intro tick htick
    cases htick
  le_target := by
    intro tick htick
    cases htick
  apart := List.IsChain.singleton last
  grows := le_refl _
  past := hpast
  paced := h

/-- The last tick is no later than the moment. -/
theorem CaughtUp.last_le {ticks : List Nat} {after : Ticker}
    (h : t.CaughtUp last target ticks after) (hlast : last ≤ target) :
    ticks.getLastD last ≤ target := by
  rcases ticks.eq_nil_or_concat' with rfl | ⟨earlier, final, rfl⟩
  · exact hlast
  · rw [List.getLastD_concat]
    exact h.le_target final (by simp)

/-- Catching up twice is catching up. -/
theorem CaughtUp.trans {middle after : Ticker} {ticks more : List Nat} {later : Nat}
    (h : t.CaughtUp last target ticks middle)
    (hmore : middle.CaughtUp (ticks.getLastD last) later more after) (hlater : target ≤ later) :
    t.CaughtUp last later (ticks ++ more) after where
  period := hmore.period.trans h.period
  tolerance := hmore.tolerance.trans h.tolerance
  due_le := by
    intro tick htick
    rcases List.mem_append.1 htick with htick | htick
    · exact h.due_le tick htick
    · exact h.grows.trans (hmore.due_le tick htick)
  le_target := by
    intro tick htick
    rcases List.mem_append.1 htick with htick | htick
    · exact (h.le_target tick htick).trans hlater
    · exact hmore.le_target tick htick
  apart := by
    have hlast := hmore.apart
    unfold Apart at hlast
    rw [h.period, h.tolerance] at hlast
    cases more with
    | nil => simpa using h.apart
    | cons next rest =>
      obtain ⟨hfirst, hrest⟩ := List.isChain_cons_cons.1 hlast
      rw [← List.cons_append, List.isChain_append]
      refine ⟨h.apart, hrest, ?_⟩
      intro x hx y hy
      rw [List.getLast?_cons, ← List.getLastD_eq_getLast?, Option.mem_some_iff] at hx
      rw [List.head?_cons, Option.mem_some_iff] at hy
      subst hx hy
      exact hfirst
  grows := h.grows.trans hmore.grows
  past := hmore.past
  paced := by
    have hlast : (ticks ++ more).getLastD last = more.getLastD (ticks.getLastD last) := by simp
    rw [hlast]
    exact hmore.paced

/-- **The ticks up to a moment**: none that is due is left out. -/
theorem Paced.catchUp (h : t.Paced last) (passage : Passage) (target : Nat) :
    t.CaughtUp last target (t.catchUp passage target).1 (t.catchUp passage target).2 := by
  induction t using Ticker.catchUp.induct passage target generalizing last with
  | case1 t hdue ih =>
    obtain ⟨hearly, hend⟩ := due_le_moment passage hdue
    have hlater := t.due_lt_due_fire (t.moment passage target)
    have hrest := ih (Paced.fire hearly)
    have hperiod := hrest.period
    have htolerance := hrest.tolerance
    have hgrows := hrest.grows
    rw [fire_period] at hperiod
    rw [fire_tolerance] at htolerance
    rw [catchUp_of_due hdue]
    refine ⟨hperiod, htolerance, ?_, ?_, ?_, hlater.le.trans hgrows, hrest.past, ?_⟩
    · intro tick htick
      rcases List.mem_cons.1 htick with rfl | htick
      · exact hearly
      · exact hlater.le.trans (hrest.due_le tick htick)
    · intro tick htick
      rcases List.mem_cons.1 htick with rfl | htick
      · exact hend
      · exact hrest.le_target tick htick
    · have hfirst : t.Apart last (t.moment passage target) :=
        h.le_due.trans (Nat.add_le_add_right hearly _)
      have hlast := hrest.apart
      unfold Apart at hlast
      rw [fire_period, fire_tolerance] at hlast
      exact List.IsChain.cons_cons hfirst hlast
    · rw [List.getLastD_cons]
      exact hrest.paced
  | case2 t hdue =>
    rw [catchUp_of_not_due hdue]
    exact caughtUp_nil h (Nat.lt_of_not_le hdue)

/-! ## How many ticks -/

/-- **Catching up ends.**  It fires one tick after another until nothing is due any more. -/
theorem isLeast_length_catchUp (t : Ticker) (passage : Passage) (target : Nat) :
    IsLeast {n | target < ((fun t => t.fire (t.moment passage target))^[n] t).due}
      (t.catchUp passage target).1.length := by
  induction t using Ticker.catchUp.induct passage target with
  | case1 t hdue ih =>
    obtain ⟨hends, hleast⟩ := ih
    rw [catchUp_of_due hdue]
    refine ⟨hends, ?_⟩
    intro n hn
    cases n with
    | zero => exact absurd hdue (Nat.not_le_of_lt hn)
    | succ n => exact Nat.succ_le_succ (hleast hn)
  | case2 t hdue =>
    rw [catchUp_of_not_due hdue]
    refine ⟨Nat.lt_of_not_le hdue, ?_⟩
    intro n _
    exact Nat.zero_le n

/-- After the ticks up to a moment nothing is due. -/
theorem lt_due_catchUp (t : Ticker) (passage : Passage) (target : Nat) :
    target < (t.catchUp passage target).2.due := by
  induction t using Ticker.catchUp.induct passage target with
  | case1 t hdue ih =>
    rw [catchUp_of_due hdue]
    exact ih
  | case2 t hdue =>
    rw [catchUp_of_not_due hdue]
    exact Nat.lt_of_not_le hdue

/-- After the ticks up to a moment the next one is at most a period away. -/
theorem due_catchUp_le (passage : Passage) (hdue : t.due ≤ target) :
    (t.catchUp passage target).2.due ≤ target + t.period.nanoseconds := by
  induction t using Ticker.catchUp.induct passage target with
  | case1 t hdue ih =>
    rw [catchUp_of_due hdue]
    rw [fire_period] at ih
    by_cases hagain : (t.fire (t.moment passage target)).due ≤ target
    · exact ih hagain
    · obtain ⟨hearly, hend⟩ := due_le_moment passage hdue
      have hnext := (Paced.fire hearly).due_le
      rw [fire_period] at hnext
      rw [catchUp_of_not_due hagain]
      exact hnext.trans (Nat.add_le_add_right hend _)
  | case2 t hlate => exact absurd hdue hlate

/-- Ticks that are all punctual keep to the schedule. -/
theorem due_catchUp_of_punctual
    (h : passage = .running ∨ target ≤ t.due + t.tolerance.nanoseconds) :
    (t.catchUp passage target).2.due =
      t.due + (t.catchUp passage target).1.length * t.period.nanoseconds := by
  induction t using Ticker.catchUp.induct passage target with
  | case1 t hdue ih =>
    have hpunctual : t.moment passage target ≤ t.due + t.tolerance.nanoseconds := by
      rcases h with rfl | h
      · exact Nat.le_add_right _ _
      · exact (due_le_moment passage hdue).2.trans h
    have hfire := due_fire_of_punctual hpunctual
    have hrest := ih (h.imp_right fun h => by rw [fire_tolerance, hfire]; omega)
    rw [fire_period] at hrest
    rw [catchUp_of_due hdue, List.length_cons, Nat.succ_mul, hrest, hfire]
    omega
  | case2 t hdue =>
    rw [catchUp_of_not_due hdue]
    simp

/-- **A jump makes few ticks**: one, unless ticks fit into the tolerance. -/
theorem length_catchUp_jumping_le (t : Ticker) (target : Nat) :
    (t.catchUp .jumping target).1.length ≤
      t.tolerance.nanoseconds / t.period.nanoseconds + 1 := by
  have hpos := t.period_pos
  by_cases hdue : t.due ≤ target
  · by_cases hlate : t.due + t.tolerance.nanoseconds < target
    · -- The first tick starts the schedule anew at the end of the jump.
      have hnext : ¬ (t.fire (t.moment .jumping target)).due ≤ target := by
        have hfire : (t.fire (t.moment .jumping target)).due = target + t.period.nanoseconds :=
          due_fire_of_late hlate
        omega
      rw [catchUp_of_due hdue, catchUp_of_not_due hnext]
      exact Nat.le_add_left _ _
    · have hschedule : (t.catchUp .jumping target).2.due =
          t.due + (t.catchUp .jumping target).1.length * t.period.nanoseconds :=
        due_catchUp_of_punctual (.inr (Nat.le_of_not_lt hlate))
      have hnext := due_catchUp_le .jumping hdue
      have hfits : ((t.catchUp .jumping target).1.length - 1) * t.period.nanoseconds ≤
          t.tolerance.nanoseconds := by
        rw [Nat.sub_mul]
        omega
      have hquotient := (Nat.le_div_iff_mul_le hpos).2 hfits
      omega
  · rw [catchUp_of_not_due hdue]
    exact Nat.zero_le _

end Admission.Ticker
