import Admission.Store

/-!
# What a store does to one identifier

A store is a map from identifiers to visitors, and this file says what each operation does to one
of them.  To serve an identifier is to call the bucket of its visitor, or that of a new visitor
if it has none; an identifier is refused only when it is new and the store is full.

* `allow_of_refused`, `allow_of_served` — the two outcomes of a decision, one of which applies;
* `visitor?_allow_self`, `visitor?_allow_other` — a decision changes one visitor at most;
* `allowMany_rel`, `admitted_eq_of_rel` — many decisions, from what is known of one;
* `visitor?_reclaimed`, `visitor?_clear` — a pass keeps or drops each visitor by itself;
* `visitor?_visit_self`, `visitor?_forget_self` — the same for a pass or a clearing that comes to
  one identifier after the other.
-/

namespace Admission

/-- What a visitor, or a new one in its place, answers at an instant, and what it becomes. -/
def serve (a : Allowance) (visitor : Option Visitor) (now : Instant) : Bool × Visitor :=
  (visitor.getD (.arriving a now)).allow now

/-- Limits to try things on: one token a second, at most one kept, and no cap; whoever was idle
for a minute is forgotten. -/
def Limits.oneASecond : Limits where
  allowance := ⟨.ofNat 1, 1, by decide +kernel, by decide +kernel, by decide⟩
  expiresIn := .ofSeconds 60
  maxVisitors := none
  expires_pos := by decide
  expires_le := by decide

/-- The same, but that two tokens are kept. -/
def Limits.twoKept : Limits :=
  { Limits.oneASecond with
    allowance := { Limits.oneASecond.allowance with burst := 2, burst_pos := by decide } }

namespace Store

/-- A store without a cap. -/
def Uncapped (s : Store) : Prop :=
  s.limits.maxVisitors = none

/-- What the visitor of an identifier answers, and what it becomes. -/
def served (s : Store) (id : String) (now : Instant) : Bool × Visitor :=
  serve s.limits.allowance (s.visitor? id) now

/-- How an identifier is served depends on the limits and on its own visitor alone. -/
theorem served_congr {s t : Store} {id : String} {now : Instant} (hlimits : s.limits = t.limits)
    (hvisitor : s.visitor? id = t.visitor? id) : s.served id now = t.served id now := by
  rw [served, served, hlimits, hvisitor]

/-- The cap that keeps an identifier out, if it is new and the store is full. -/
def refused (s : Store) (id : String) : Option Nat :=
  if s.contains id then none else s.refusal?

/-- The store with a visitor written. -/
def write (s : Store) (id : String) (v : Visitor) : Store :=
  { s with visitors := s.visitors.put id v }

variable {s : Store} {id other : String} {now : Instant}

@[simp] theorem write_limits (s : Store) (id : String) (v : Visitor) :
    (s.write id v).limits = s.limits := rfl

@[simp] theorem visitor?_write_self (s : Store) (id : String) (v : Visitor) :
    (s.write id v).visitor? id = some v :=
  Roster.lookup_put_self s.visitors id v

theorem visitor?_write_other (s : Store) (h : other ≠ id) (v : Visitor) :
    (s.write id v).visitor? other = s.visitor? other :=
  Roster.lookup_put_other s.visitors h v

@[simp] theorem enrolled_answer (s : Store) (id : String) (now : Instant) :
    (s.enrolled id now).answer = .ok (s.served id now).1 := rfl

@[simp] theorem enrolled_state (s : Store) (id : String) (now : Instant) :
    (s.enrolled id now).state = s.write id (s.served id now).2 := rfl

theorem contains_eq_false : s.contains id = false ↔ s.visitor? id = none := by
  simp [contains]

/-- To charge an identifier that is tracked is to enter it. -/
theorem charge?_of_contains (h : s.contains id = true) (now : Instant) :
    ∃ allowed t, s.charge? id now = some (allowed, t) ∧
      (⟨.ok allowed, t, [.limitChecked id allowed]⟩ : Reply Store) = s.enrolled id now := by
  obtain ⟨v, hv⟩ := Option.isSome_iff_exists.1 h
  refine ⟨(v.allow now).1, s.write id (v.allow now).2, ?_, ?_⟩
  · rw [charge?, hv]
    rfl
  · unfold enrolled enroll contains
    rw [hv]
    rfl

theorem charge?_of_not_contains (h : s.contains id = false) (now : Instant) :
    s.charge? id now = none := by
  rw [charge?, contains_eq_false.1 h, Option.map_none]

/-- Whoever is tracked is not refused. -/
theorem refused_of_contains (h : s.contains id = true) : s.refused id = none := by
  rw [refused, h, if_pos rfl]

theorem refused_of_not_contains (h : s.contains id = false) : s.refused id = s.refusal? := by
  rw [refused, h, if_neg Bool.false_ne_true]

/-- A refused identifier gets the reply of the second section. -/
theorem allow_eq_turnedAway {limit : Nat} (h : s.refused id = some limit) (now : Instant) :
    s.allow id now = s.turnedAway id limit := by
  cases htracked : s.contains id with
  | true =>
    rw [refused_of_contains htracked] at h
    cases h
  | false =>
    rw [refused_of_not_contains htracked] at h
    simp only [allow, charge?_of_not_contains htracked, h]

/-- **A refused identifier** gets the cap for an answer and leaves the store as it is. -/
theorem allow_of_refused {limit : Nat} (h : s.refused id = some limit) (now : Instant) :
    (s.allow id now).answer = .error (.capacityExceeded limit) ∧ (s.allow id now).state = s := by
  rw [allow_eq_turnedAway h]
  exact ⟨rfl, rfl⟩

/-- An identifier that is not refused gets the reply of the third section, whether a decision
goes as far or not. -/
theorem allow_eq_enrolled (h : s.refused id = none) (now : Instant) :
    s.allow id now = s.enrolled id now := by
  cases htracked : s.contains id with
  | true =>
    obtain ⟨allowed, t, hcharge, hreply⟩ := charge?_of_contains htracked now
    simp only [allow, hcharge, hreply]
  | false =>
    rw [refused_of_not_contains htracked] at h
    simp only [allow, charge?_of_not_contains htracked, h]

/-- **An identifier that is not refused is served.** -/
theorem allow_of_served (h : s.refused id = none) (now : Instant) :
    (s.allow id now).answer = .ok (s.served id now).1 ∧
      (s.allow id now).state = s.write id (s.served id now).2 := by
  rw [allow_eq_enrolled h]
  exact ⟨enrolled_answer s id now, enrolled_state s id now⟩

theorem Uncapped.refused_eq_none (h : s.Uncapped) (id : String) : s.refused id = none := by
  unfold refused refusal?
  rw [h, Option.filter_none, ite_self]

theorem Uncapped.congr {t : Store} (h : s.Uncapped) (hlimits : s.limits = t.limits) :
    t.Uncapped := by
  unfold Uncapped at *
  rwa [← hlimits]

@[simp] theorem allow_limits (s : Store) (id : String) (now : Instant) :
    (s.allow id now).state.limits = s.limits := by
  cases h : s.refused id with
  | some limit => rw [(allow_of_refused h now).2]
  | none => rw [(allow_of_served h now).2, write_limits]

/-- A served identifier is left with the visitor that served it. -/
theorem visitor?_allow_self (h : s.refused id = none) (now : Instant) :
    (s.allow id now).state.visitor? id = some (s.served id now).2 := by
  rw [(allow_of_served h now).2, visitor?_write_self]

/-- A decision on one identifier changes no other, whatever it is. -/
theorem visitor?_allow_other (s : Store) (h : other ≠ id) (now : Instant) :
    (s.allow id now).state.visitor? other = s.visitor? other := by
  cases hr : s.refused id with
  | some limit => rw [(allow_of_refused hr now).2]
  | none => rw [(allow_of_served hr now).2, visitor?_write_other s h]

/-! ## Many requests

A relation that one decision keeps is kept by any number of them. -/

section

variable {R : Store → Store → Prop} {t : Store}

theorem allowMany_rel
    (hallow : ∀ s t, R s t → R (s.allow id now).state (t.allow id now).state)
    (h : R s t) (n : Nat) : R (s.allowMany id now n).2 (t.allowMany id now n).2 := by
  induction n generalizing s t with
  | zero => exact h
  | succ n ih => exact ih (hallow s t h)

/-- Of many requests the same number is admitted, where each is answered alike. -/
theorem admitted_eq_of_rel
    (hallow : ∀ s t, R s t → R (s.allow id now).state (t.allow id now).state)
    (hanswer : ∀ s t, R s t → (s.allow id now).answer = (t.allow id now).answer)
    (h : R s t) (n : Nat) : (s.allowMany id now n).1 = (t.allowMany id now n).1 := by
  induction n generalizing s t with
  | zero => rfl
  | succ n ih =>
    simp only [allowMany]
    rw [hanswer s t h, ih (hallow s t h)]

end

/-- Many decisions on one identifier change no other. -/
theorem visitor?_allowMany_other (s : Store) (h : other ≠ id) (now : Instant) (n : Nat) :
    (s.allowMany id now n).2.visitor? other = s.visitor? other := by
  induction n generalizing s with
  | zero => rfl
  | succ n ih => exact (ih (s.allow id now).state).trans (visitor?_allow_other s h now)

/-! ## Passes and clearing -/

/-- The store that a pass leaves. -/
def reclaimed (s : Store) (now : Instant) : Store :=
  (s.reclaim now).2.1

@[simp] theorem reclaimed_limits (s : Store) (now : Instant) :
    (s.reclaimed now).limits = s.limits := rfl

/-- A pass keeps a visitor unless it is stale. -/
theorem visitor?_reclaimed (s : Store) (id : String) (now : Instant) :
    (s.reclaimed now).visitor? id =
      (s.visitor? id).filter fun v => !v.isStale now s.limits.expiresIn :=
  Roster.lookup_filter s.visitors _ id

@[simp] theorem visitor?_clear (s : Store) (id : String) : s.clear.visitor? id = none := rfl

@[simp] theorem visitor?_forget_self (s : Store) (id : String) :
    (s.forget id).visitor? id = none :=
  Roster.lookup_remove_self s.visitors id

theorem visitor?_forget_other (s : Store) (h : other ≠ id) :
    (s.forget id).visitor? other = s.visitor? other :=
  Roster.lookup_remove_other s.visitors h

@[simp] theorem visit_limits (s : Store) (id : String) (reading : Instant) :
    (s.visit id reading).limits = s.limits := by
  unfold visit
  split <;> rfl

/-- A pass that comes to an identifier keeps its visitor unless that is stale. -/
theorem visitor?_visit_self (s : Store) (id : String) (reading : Instant) :
    (s.visit id reading).visitor? id =
      (s.visitor? id).filter fun v => !v.isStale reading s.limits.expiresIn := by
  unfold visit
  cases hv : s.visitor? id with
  | none => simp [hv]
  | some v =>
    cases hstale : v.isStale reading s.limits.expiresIn with
    | false =>
      rw [Option.filter_some_pos (by simp [hstale])]
      simpa [hstale] using hv
    | true =>
      rw [Option.filter_some_neg (by simp [hstale])]
      simp [hstale]

/-- It changes no other. -/
theorem visitor?_visit_other (s : Store) (h : other ≠ id) (reading : Instant) :
    (s.visit id reading).visitor? other = s.visitor? other := by
  unfold visit
  split
  · exact visitor?_forget_other s h
  · rfl

theorem contains_of_forget (h : (s.forget other).contains id = true) : s.contains id = true := by
  unfold contains at *
  by_cases hid : id = other
  · subst hid
    rw [visitor?_forget_self] at h
    cases h
  · rwa [visitor?_forget_other s hid] at h

theorem contains_of_visit {reading : Instant} (h : (s.visit other reading).contains id = true) :
    s.contains id = true := by
  unfold visit at h
  split at h
  · exact contains_of_forget h
  · exact h

end Store

end Admission
