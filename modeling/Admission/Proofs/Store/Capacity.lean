import Admission.Reclaimer
import Admission.Proofs.Store.Soundness

/-!
# The cap of a store

A store with a cap refuses whoever is new while it is full.  To everybody else it is a store
without a cap: the same answers, the same log, the same visitors.

* `exists_refused_iff`, `allow_eq_error_iff` — who is refused, and with which error;
* `size_write`, `size_allow_le` — tracking somebody new is the only thing that takes room;
* `Reachable.size_le` — a store that started empty never exceeds its cap;
* `Store.withoutCap`, `allow_withoutCap`, `allowMany_withoutCap` — whoever is not refused is
  treated as if there were no cap.
-/

namespace Admission

namespace Store

variable {s : Store} {id : String} {cap : Nat}

/-! ## Who is refused -/

theorem refusal?_eq_some_iff : s.refusal? = some cap ↔
    s.limits.maxVisitors = some cap ∧ cap ≤ s.size := by
  unfold refusal?
  rw [Option.filter_eq_some_iff, decide_eq_true_iff]

/-- There is room below the cap for whoever is not refused. -/
theorem size_lt_of_refusal?_eq_none (hcap : s.limits.maxVisitors = some cap)
    (h : s.refusal? = none) : s.size < cap := by
  apply Nat.lt_of_not_le
  intro hfull
  rw [refusal?_eq_some_iff.2 ⟨hcap, hfull⟩] at h
  cases h

/-- An identifier is refused when it is new and the store is full. -/
theorem refused_eq_some_iff : s.refused id = some cap ↔
    s.contains id = false ∧ s.limits.maxVisitors = some cap ∧ cap ≤ s.size := by
  unfold refused
  rw [← refusal?_eq_some_iff]
  cases s.contains id <;> simp

theorem eq_cap_of_refused (hcap : s.limits.maxVisitors = some cap) {limit : Nat}
    (h : s.refused id = some limit) : limit = cap := by
  have hmax := (refused_eq_some_iff.1 h).2.1
  rw [hcap] at hmax
  exact (Option.some.inj hmax).symm

theorem exists_refused_iff (hcap : s.limits.maxVisitors = some cap) :
    (∃ limit, s.refused id = some limit) ↔ s.contains id = false ∧ cap ≤ s.size := by
  constructor
  · rintro ⟨limit, h⟩
    obtain ⟨hnew, -, hfull⟩ := refused_eq_some_iff.1 h
    exact ⟨hnew, eq_cap_of_refused hcap h ▸ hfull⟩
  · rintro ⟨hnew, hfull⟩
    exact ⟨cap, refused_eq_some_iff.2 ⟨hnew, hcap, hfull⟩⟩

/-- A decision fails for the cap alone, and only where it refuses the identifier. -/
theorem allow_eq_error_iff {now : Instant} {e : StoreError} :
    (s.allow id now).answer = .error e ↔
      ∃ limit, s.refused id = some limit ∧ e = .capacityExceeded limit := by
  cases h : s.refused id with
  | none =>
    rw [allow_eq_enrolled h]
    simp
  | some limit =>
    rw [allow_eq_turnedAway h]
    simp [turnedAway, eq_comm]

/-! ## How many are tracked -/

theorem contains_iff_mem_keys : s.contains id = true ↔ id ∈ s.visitors.keys := by
  rw [contains, Option.isSome_iff_ne_none, ne_eq, visitor?, Roster.lookup_eq_none,
    Decidable.not_not]

/-- Writing a visitor takes room if the identifier is new. -/
theorem size_write (s : Store) (id : String) (v : Visitor) :
    (s.write id v).size = if s.contains id then s.size else s.size + 1 := by
  simp only [contains_iff_mem_keys]
  exact s.visitors.size_put id v

theorem size_reclaimed_le (s : Store) (now : Instant) : (s.reclaimed now).size ≤ s.size :=
  s.visitors.size_filter_le _

theorem size_forget_le (s : Store) (id : String) : (s.forget id).size ≤ s.size :=
  s.visitors.size_remove_le id

theorem size_visit_le (s : Store) (id : String) (reading : Instant) :
    (s.visit id reading).size ≤ s.size := by
  unfold visit
  split
  · exact s.size_forget_le id
  · exact Nat.le_refl _

/-- A decision leaves a store within its cap. -/
theorem size_allow_le (hcap : s.limits.maxVisitors = some cap) (h : s.size ≤ cap) (id : String)
    (now : Instant) : (s.allow id now).state.size ≤ cap := by
  cases hrefused : s.refused id with
  | some limit => rwa [allow_eq_turnedAway hrefused]
  | none =>
    rw [allow_eq_enrolled hrefused, enrolled_state, size_write]
    split
    · exact h
    · next hnew =>
      rw [refused, if_neg hnew] at hrefused
      exact size_lt_of_refusal?_eq_none hcap hrefused

/-- **No store exceeds its cap.** -/
theorem Reachable.size_le {limits : Limits} (h : Reachable limits s)
    (hcap : limits.maxVisitors = some cap) : s.size ≤ cap := by
  induction h with
  | empty => exact Nat.zero_le cap
  | allow id now hs ih => exact size_allow_le (by rw [hs.limits_eq, hcap]) ih id now
  | reclaim now _ ih => exact (size_reclaimed_le _ now).trans ih
  | clear _ _ => exact Nat.zero_le cap

end Store

/-- Limits to try the cap on: one identifier at most, and one token a second for it. -/
def Limits.oneVisitor : Limits :=
  { Limits.oneASecond with maxVisitors := some 1 }

/-! ## The same store without a cap -/

/-- The same limits without a cap. -/
def Limits.withoutCap (l : Limits) : Limits :=
  { l with maxVisitors := none }

namespace Store

variable {s : Store} {id : String}

/-- The same store without a cap. -/
def withoutCap (s : Store) : Store :=
  { s with limits := s.limits.withoutCap }

theorem withoutCap_uncapped (s : Store) : s.withoutCap.Uncapped := rfl

/-- Whoever is not refused is treated as if there were no cap. -/
theorem allow_withoutCap (h : s.refused id = none) (now : Instant) :
    s.withoutCap.allow id now =
      ⟨(s.allow id now).answer, (s.allow id now).state.withoutCap, (s.allow id now).events⟩ := by
  rw [allow_eq_enrolled h, allow_eq_enrolled (s.withoutCap_uncapped.refused_eq_none id)]
  rfl

/-- Whoever was served will not be refused. -/
theorem refused_allow_self (h : s.refused id = none) (now : Instant) :
    (s.allow id now).state.refused id = none := by
  rw [refused, contains, visitor?_allow_self h, Option.isSome_some, if_pos rfl]

theorem allowMany_withoutCap (h : s.refused id = none) (now : Instant) (n : Nat) :
    s.withoutCap.allowMany id now n =
      ((s.allowMany id now n).1, (s.allowMany id now n).2.withoutCap) := by
  induction n generalizing s with
  | zero => rfl
  | succ n ih =>
    simp only [allowMany]
    rw [allow_withoutCap h]
    dsimp only
    rw [ih (refused_allow_self h now)]

/-- Of many requests of a refused identifier none is admitted, and none leaves a trace. -/
theorem allowMany_of_refused {limit : Nat} (h : s.refused id = some limit) (now : Instant)
    (n : Nat) : s.allowMany id now n = (0, s) := by
  induction n with
  | zero => rfl
  | succ n ih =>
    simp only [allowMany]
    rw [allow_eq_turnedAway h]
    simp only [turnedAway]
    rw [ih]

theorem passes_withoutCap (s : Store) (clock : Instant) (n : Nat) :
    Reclaimer.passes s.withoutCap clock n =
      ((Reclaimer.passes s clock n).1.withoutCap, (Reclaimer.passes s clock n).2) := by
  induction n generalizing s with
  | zero => rfl
  | succ n ih =>
    have hrest := ih (s.reclaimed clock)
    simp only [Reclaimer.passes]
    exact congrArg (fun p : Store × List Event => (p.1, (s.reclaim clock).2.2 ++ p.2)) hrest

end Store

end Admission
