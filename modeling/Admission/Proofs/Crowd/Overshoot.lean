import Admission.Proofs.Crowd.Sections
import Admission.Proofs.Store.Capacity

/-!
# How far callers overshoot the cap

The check and the entry are sections of their own.  Whoever has passed the check may enter at any
later moment, however many others have entered since; so a store can come to track more
identifiers than its cap allows.  What keeps the excess small is that a caller makes one call at a
time.  Each of them can have passed the check once, and the last one to pass it saw room.

* `Crowd.entering` — how many callers have passed the check and not entered yet;
* `Crowd.Within` — those, and the identifiers that are tracked, are at most the cap and all
  callers but one;
* `Within.step`, `Within.run` — no move breaks that;
* `size_le_cap_add_callers` — what it means for the size of the store.
-/

namespace Admission

namespace Store

/-- An entry takes room for one identifier at most. -/
theorem size_enrolled_le (s : Store) (id : String) (now : Instant) :
    (s.enrolled id now).state.size ≤ s.size + 1 := by
  rw [enrolled_state, size_write]
  split <;> omega

theorem size_enrolled_of_contains {s : Store} {id : String} (h : s.contains id = true)
    (now : Instant) : (s.enrolled id now).state.size = s.size := by
  rw [enrolled_state, size_write, if_pos h]

end Store

namespace Crowd

/-- Whether a caller has passed the check and not entered yet. -/
def Stage.isEntering : Stage → Bool
  | .entering _ => true
  | _ => false

/-- How many callers have passed the check and not entered yet. -/
def entering (c : Crowd) : Nat :=
  c.callers.countP Stage.isEntering

/-- There is a cap, and whoever is tracked or may still enter finds a place: up to the cap, and
beyond it for all callers but one.  A store that may track nobody is left alone. -/
structure Within (cap : Nat) (c : Crowd) : Prop where
  maxVisitors : c.store.limits.maxVisitors = some cap
  places : c.store.size + c.entering ≤ cap + c.callers.length - 1
  closed : cap = 0 → c.store.size + c.entering = 0

variable {c d : Crowd} {cap caller : Nat} {stage : Stage}

theorem entering_become (h : c.callers[caller]? = some stage) (next : Stage) :
    (c.become caller next).entering + stage.isEntering.toNat =
      c.entering + next.isEntering.toNat :=
  countP_become Stage.isEntering h next

theorem entering_settle (h : c.callers[caller]? = some stage) (call : Call)
    (reply : Reply Store) :
    (c.settle caller call reply).entering + stage.isEntering.toNat = c.entering :=
  entering_become h .idle

namespace Within

/-- What takes no room keeps everybody within. -/
theorem of_le (h : Within cap c) (hlimits : d.store.limits = c.store.limits)
    (hcallers : d.callers.length = c.callers.length)
    (hle : d.store.size + d.entering ≤ c.store.size + c.entering) : Within cap d where
  maxVisitors := by rw [hlimits, h.maxVisitors]
  places := by
    have hplaces := h.places
    omega
  closed := by
    intro hcap
    have hclosed := h.closed hcap
    omega

/-- **No section breaks it.**  The check is where places are given away: it saw room below the
cap, and afterwards at most all callers are about to enter. -/
theorem proceed (h : Within cap c) (caller : Nat) : Within cap (c.proceed caller) := by
  have hlimits := proceed_limits c caller
  have hsection := section_proceed c caller
  generalize c.proceed caller = d at hlimits hsection
  cases hsection with
  | @charged call stage tracked =>
    have hsize := Store.size_enrolled_of_contains tracked call.reading
    have hentering : (c.settle caller call (c.store.enrolled call.id call.reading)).entering
        = c.entering := entering_settle stage call _
    refine h.of_le hlimits List.length_set ?_
    exact Nat.le_of_eq (congrArg₂ _ hsize hentering)
  | @missed call stage untracked =>
    have hentering : (c.become caller (.checking call)).entering = c.entering :=
      entering_become stage (.checking call)
    refine h.of_le hlimits List.length_set ?_
    exact Nat.le_of_eq (congrArg _ hentering)
  | @refused call limit stage full =>
    have hentering : (c.settle caller call (c.store.turnedAway call.id limit)).entering
        = c.entering := entering_settle stage call _
    refine h.of_le hlimits List.length_set ?_
    exact Nat.le_of_eq (congrArg _ hentering)
  | @passed call stage room =>
    have hroom := Store.size_lt_of_refusal?_eq_none h.maxVisitors room
    have hcount : (c.become caller (.entering call)).entering ≤ c.callers.length :=
      List.countP_le_length.trans_eq List.length_set
    refine ⟨h.maxVisitors, ?_, fun hcap => by omega⟩
    show c.store.size + _ ≤ cap + (c.callers.set caller _).length - 1
    rw [List.length_set]
    omega
  | @entered call stage =>
    have hsize := c.store.size_enrolled_le call.id call.reading
    have hentering : (c.settle caller call (c.store.enrolled call.id call.reading)).entering + 1
        = c.entering := entering_settle stage call _
    refine h.of_le hlimits List.length_set ?_
    show (c.store.enrolled call.id call.reading).state.size + _ ≤ _
    omega
  | absent stage => exact h

/-- **No move breaks it.** -/
theorem step (h : Within cap c) (move : Move) : Within cap (c.step move) := by
  cases move with
  | setClock _ | startPass => exact ⟨h.maxVisitors, h.places, h.closed⟩
  | call caller id =>
    simp only [Crowd.step]
    split
    · next stage =>
      have hentering : (c.become caller (.looking ⟨id, c.clock⟩)).entering = c.entering :=
        entering_become stage _
      exact h.of_le rfl List.length_set (Nat.le_of_eq (congrArg _ hentering))
    · exact h
  | proceed caller => exact h.proceed caller
  | visit pass id =>
    simp only [Crowd.step]
    split
    · next reading _ =>
      have hsize := c.store.size_visit_le id reading
      exact h.of_le (c.store.visit_limits id reading) rfl (Nat.add_le_add_right hsize _)
    · exact h
  | forget id =>
    have hsize := c.store.size_forget_le id
    exact h.of_le rfl rfl (Nat.add_le_add_right hsize _)
  | clear => exact h.of_le rfl rfl (Nat.add_le_add_right (Nat.zero_le _) _)

/-- **Nor does any run.** -/
theorem run (h : Within cap c) (moves : List Move) : Within cap (c.run moves) := by
  induction moves generalizing c with
  | nil => exact h
  | cons move rest ih => exact ih (h.step move)

end Within

theorem within_opening {limits : Limits} (hcap : limits.maxVisitors = some cap) (now : Instant)
    (callers : Nat) : Within cap (opening limits now callers) := by
  have hentering : (opening limits now callers).entering = 0 := by
    unfold entering opening
    rw [List.countP_replicate]
    rfl
  have hsize : (opening limits now callers).store.size = 0 := rfl
  refine ⟨hcap, ?_, fun _ => ?_⟩ <;> omega

/-- **Callers overshoot the cap by all of them but one**, at most.  Whatever the sections of
their calls, the passes and the clearings come to in between, a store that started empty tracks
no more identifiers than the cap and one for each further caller; and nobody at all if the cap is
zero. -/
theorem size_le_cap_add_callers {limits : Limits} {cap : Nat}
    (hcap : limits.maxVisitors = some cap) (now : Instant) (callers : Nat) (moves : List Move) :
    let c := (opening limits now callers).run moves
    c.store.size ≤ cap + callers - 1 ∧ (cap = 0 → c.store.size = 0) := by
  intro c
  have hwithin : Within cap c := (within_opening hcap now callers).run moves
  have hplaces := hwithin.places
  have hcallers : c.callers.length = callers :=
    (length_callers_run _ moves).trans List.length_replicate
  rw [hcallers] at hplaces
  refine ⟨by omega, fun hzero => ?_⟩
  have hclosed := hwithin.closed hzero
  omega

/-- Two callers pass the check before either enters: one identifier more than the cap allows. -/
theorem size_le_cap_add_callers_of_two_callers :
    let c := (opening .oneVisitor .epoch 2).run [.call 0 "alice", .proceed 0, .proceed 0,
      .call 1 "bob", .proceed 1, .proceed 1, .proceed 0, .proceed 1]
    Limits.oneVisitor.maxVisitors = some 1 ∧ c.store.size = 2 ∧ c.store.size ≤ 1 + 2 - 1 := by
  intro c
  have hcap : Limits.oneVisitor.maxVisitors = some 1 := rfl
  exact ⟨hcap, by decide +kernel, (size_le_cap_add_callers hcap .epoch 2 _).1⟩

end Crowd
end Admission
