import Admission.Proofs.Bucket.Refill
import Admission.Proofs.Store.Serving

/-!
# Sound stores

A visitor is sound when its bucket keeps the allowance of the store, was counted when the
visitor was last seen, and holds an exact count.  Every visitor of a store that started empty is
sound, whatever was done to the store since and however its clock moved.
-/

namespace Admission

/-- A visitor as a store with this allowance keeps it. -/
structure Visitor.Sound (a : Allowance) (v : Visitor) : Prop where
  allowance : v.bucket.allowance = a
  lastUpdate : v.bucket.lastUpdate = v.lastSeen
  holds : ∃ t, v.bucket.Holds t

namespace Visitor

theorem sound_arriving (a : Allowance) (now : Instant) : (arriving a now).Sound a :=
  ⟨rfl, rfl, _, Bucket.holds_full a now⟩

theorem Sound.allow {a : Allowance} {v : Visitor} (h : v.Sound a) (now : Instant) :
    (v.allow now).2.Sound a := by
  obtain ⟨hallowance, -, t, hholds⟩ := h
  refine ⟨?_, ?_, _, (hholds.allow now).2⟩
  · show (v.bucket.allow now).2.allowance = a
    rw [Bucket.allow_allowance, hallowance]
  · show (v.bucket.allow now).2.lastUpdate = now
    rw [Bucket.allow_lastUpdate]

end Visitor

namespace Store

/-- A store whose visitors are all sound. -/
def Sound (s : Store) : Prop :=
  ∀ id v, s.visitor? id = some v → v.Sound s.limits.allowance

variable {s : Store}

theorem sound_empty (limits : Limits) : (empty limits).Sound := by
  intro id v hv
  simp [empty, visitor?] at hv

/-- Whoever answers for an identifier, a visitor or a new one, is sound. -/
theorem Sound.getD_arriving (h : s.Sound) (id : String) (now : Instant) :
    ((s.visitor? id).getD (.arriving s.limits.allowance now)).Sound s.limits.allowance := by
  cases hv : s.visitor? id with
  | none => exact Visitor.sound_arriving _ now
  | some v => exact h id v hv

theorem Sound.served (h : s.Sound) (id : String) (now : Instant) :
    (s.served id now).2.Sound s.limits.allowance :=
  (h.getD_arriving id now).allow now

theorem Sound.write (h : s.Sound) (id : String) {v : Visitor}
    (hv : v.Sound s.limits.allowance) : (s.write id v).Sound := by
  intro other w hw
  by_cases hid : other = id
  · subst hid
    rw [visitor?_write_self] at hw
    exact Option.some.inj hw ▸ hv
  · rw [visitor?_write_other s hid] at hw
    exact h other w hw

theorem Sound.enrolled (h : s.Sound) (id : String) (now : Instant) :
    (s.enrolled id now).state.Sound :=
  h.write id (h.served id now)

theorem Sound.allow (h : s.Sound) (id : String) (now : Instant) :
    (s.allow id now).state.Sound := by
  cases hr : s.refused id with
  | some limit =>
    rw [(allow_of_refused hr now).2]
    exact h
  | none =>
    rw [allow_eq_enrolled hr]
    exact h.enrolled id now

theorem Sound.reclaimed (h : s.Sound) (now : Instant) : (s.reclaimed now).Sound := by
  intro id v hv
  rw [visitor?_reclaimed, Option.filter_eq_some_iff] at hv
  exact h id v hv.1

theorem Sound.forget (h : s.Sound) (id : String) : (s.forget id).Sound := by
  intro other v hv
  by_cases hid : other = id
  · subst hid
    rw [visitor?_forget_self] at hv
    cases hv
  · rw [visitor?_forget_other s hid] at hv
    exact h other v hv

theorem Sound.visit (h : s.Sound) (id : String) (reading : Instant) :
    (s.visit id reading).Sound := by
  unfold Store.visit
  split
  · exact h.forget id
  · exact h

theorem sound_clear (s : Store) : s.clear.Sound := by
  intro id v hv
  rw [visitor?_clear] at hv
  cases hv

/-- The stores that decisions, passes and clearing can make of an empty one, at any readings of
the clock. -/
inductive Reachable (limits : Limits) : Store → Prop
  | empty : Reachable limits (.empty limits)
  | allow {s : Store} (id : String) (now : Instant) (h : Reachable limits s) :
      Reachable limits (s.allow id now).state
  | reclaim {s : Store} (now : Instant) (h : Reachable limits s) :
      Reachable limits (s.reclaimed now)
  | clear {s : Store} (h : Reachable limits s) : Reachable limits s.clear

namespace Reachable

variable {limits : Limits}

theorem limits_eq (h : Reachable limits s) : s.limits = limits := by
  induction h with
  | empty => rfl
  | allow id now _ ih => rw [allow_limits, ih]
  | reclaim now _ ih => exact ih
  | clear _ ih => exact ih

theorem allowMany (h : Reachable limits s) (id : String) (now : Instant) (n : Nat) :
    Reachable limits (s.allowMany id now n).2 := by
  induction n generalizing s with
  | zero => exact h
  | succ n ih => exact ih (h.allow id now)

theorem sound (h : Reachable limits s) : s.Sound := by
  induction h with
  | empty => exact sound_empty limits
  | allow id now _ ih => exact ih.allow id now
  | reclaim now _ ih => exact ih.reclaimed now
  | clear _ => exact sound_clear _

end Reachable

end Store

end Admission
