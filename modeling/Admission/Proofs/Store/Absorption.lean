import Admission.Proofs.Store.Capacity

/-!
# Passes absorb one another

A pass drops whoever has been idle for too long at its reading of the clock, and nobody else.
Whoever is stale at one reading is stale at every later one, so that the latest of several passes
decides alone who stays, and the counts of the others are shares of its own.

* `Visitor.isStale_iff`, `isStale_eq_false_iff`, `isStale_of_le` — the test, exact at its boundary,
  and its direction;
* `Store.ExactPass` — what a pass has to remove, to leave, and to count;
* `exactPass_reclaim` — every pass over every store does so;
* `reclaimed_of_earlier`, `removed_add_removed` — a pass makes good for those before it;
* `reclaimed_of_later`, `removed_of_later` — it leaves nothing to one that reads the clock earlier.
-/

namespace Admission

namespace Visitor

variable {v : Visitor} {first last : Instant} {expiresIn : Duration}

/-- Stale is who was last seen more than the idle period ago, to the nanosecond. -/
theorem isStale_iff {t : Instant} : v.isStale t expiresIn = true ↔
    (expiresIn.nanoseconds : Int) < t.sinceEpoch - v.lastSeen.sinceEpoch :=
  decide_eq_true_iff

/-- Whoever was last seen no more than the idle period ago, or is yet to be seen, is not. -/
theorem isStale_eq_false_iff {t : Instant} : v.isStale t expiresIn = false ↔
    t.sinceEpoch - expiresIn.nanoseconds ≤ v.lastSeen.sinceEpoch := by
  rw [Bool.eq_false_iff, ne_eq, isStale_iff]
  omega

/-- Whoever is stale stays so while the clock moves on. -/
theorem isStale_of_le (hle : first.sinceEpoch ≤ last.sinceEpoch)
    (h : v.isStale first expiresIn = true) : v.isStale last expiresIn = true := by
  rw [isStale_iff] at *
  omega

/-- Of two tests in a row the later decides. -/
theorem fresh_and_fresh (hle : first.sinceEpoch ≤ last.sinceEpoch) :
    (!v.isStale first expiresIn && !v.isStale last expiresIn) = !v.isStale last expiresIn := by
  cases hfirst : v.isStale first expiresIn with
  | false => exact Bool.true_and _
  | true => rw [isStale_of_le hle hfirst, Bool.not_true, Bool.and_false]

end Visitor

/-- Two tests in a row are one. -/
theorem Roster.filter_filter {α : Type} (r : Roster α) (p q : α → Bool) :
    (r.filter p).filter q = r.filter fun a => p a && q a := by
  simp only [filter, List.filter_filter, Bool.and_comm]

namespace Store

/-- What a pass at `t` over the store has to make of it: it removes whoever was last seen more than
the idle period before `t`, leaves every other visitor as it is and adds nobody, and its count is
the number of the stale, which is what the store has lost. -/
structure ExactPass (s : Store) (t : Instant) (removed : Nat) (kept : Store) : Prop where
  limits : kept.limits = s.limits
  gone : ∀ id v, s.visitor? id = some v →
    (kept.contains id = false ↔
      (s.limits.expiresIn.nanoseconds : Int) < t.sinceEpoch - v.lastSeen.sinceEpoch)
  unchanged : ∀ id v, kept.visitor? id = some v → s.visitor? id = some v
  counted : removed = (s.visitors.entries.filter fun e =>
    decide ((s.limits.expiresIn.nanoseconds : Int) <
      t.sinceEpoch - e.2.lastSeen.sinceEpoch)).length
  lost : kept.size + removed = s.size

variable {s : Store} {first last : Instant}

/-- The kept and the stale together are all that were there. -/
theorem size_reclaimed_add (s : Store) (t : Instant) : (s.reclaimed t).size +
    (s.visitors.entries.filter fun e => e.2.isStale t s.limits.expiresIn).length = s.size := by
  have hsplit := s.visitors.entries.length_eq_length_filter_add
    fun e => !e.2.isStale t s.limits.expiresIn
  simp only [Bool.not_not] at hsplit
  exact hsplit.symm

/-- The count of a pass is the number of the stale. -/
theorem removed_eq (s : Store) (t : Instant) : (s.reclaim t).1 =
    (s.visitors.entries.filter fun e => e.2.isStale t s.limits.expiresIn).length := by
  have hadd := size_reclaimed_add s t
  have hremoved : (s.reclaim t).1 = s.size - (s.reclaimed t).size := rfl
  omega

/-- What is removed and what is left make up the store. -/
theorem size_reclaimed_add_removed (s : Store) (t : Instant) :
    (s.reclaimed t).size + (s.reclaim t).1 = s.size := by
  rw [removed_eq, size_reclaimed_add]

/-- Who is tracked after a pass was tracked before it and is not stale. -/
theorem visitor?_reclaimed_eq_some_iff {t : Instant} {id : String} {v : Visitor} :
    (s.reclaimed t).visitor? id = some v ↔
      s.visitor? id = some v ∧ v.isStale t s.limits.expiresIn = false := by
  rw [visitor?_reclaimed, Option.filter_eq_some_iff, Bool.not_eq_true']

/-- **Every pass is exact**, over every store and at every reading of the clock. -/
theorem exactPass_reclaim (s : Store) (t : Instant) :
    s.ExactPass t (s.reclaim t).1 (s.reclaimed t) where
  limits := rfl
  gone := by
    intro id v hv
    rw [contains, visitor?_reclaimed, hv, ← Visitor.isStale_iff]
    cases hstale : v.isStale t s.limits.expiresIn <;> simp [Option.filter, hstale]
  unchanged := fun id v hv => (visitor?_reclaimed_eq_some_iff.1 hv).1
  counted := removed_eq s t
  lost := size_reclaimed_add_removed s t

/-! ## Two passes in a row -/

/-- **A pass makes good for one before it** that read the clock earlier. -/
theorem reclaimed_of_earlier (hle : first.sinceEpoch ≤ last.sinceEpoch) :
    (s.reclaimed first).reclaimed last = s.reclaimed last := by
  have hvisitors := s.visitors.filter_filter (fun v => !v.isStale first s.limits.expiresIn)
    fun v => !v.isStale last s.limits.expiresIn
  simp only [Visitor.fresh_and_fresh hle] at hvisitors
  exact congrArg (Store.mk s.limits) hvisitors

/-- The two counts add up to that of the later pass alone. -/
theorem removed_add_removed (hle : first.sinceEpoch ≤ last.sinceEpoch) :
    (s.reclaim first).1 + ((s.reclaimed first).reclaim last).1 = (s.reclaim last).1 := by
  have hfirst := size_reclaimed_add_removed s first
  have hsecond := size_reclaimed_add_removed (s.reclaimed first) last
  have honly := size_reclaimed_add_removed s last
  rw [reclaimed_of_earlier hle] at hsecond
  omega

/-- **A pass leaves nothing to one after it** that reads the clock no later. -/
theorem reclaimed_of_later (hle : first.sinceEpoch ≤ last.sinceEpoch) :
    (s.reclaimed last).reclaimed first = s.reclaimed last := by
  have hvisitors := s.visitors.filter_filter (fun v => !v.isStale last s.limits.expiresIn)
    fun v => !v.isStale first s.limits.expiresIn
  simp only [Bool.and_comm, Visitor.fresh_and_fresh hle] at hvisitors
  exact congrArg (Store.mk s.limits) hvisitors

theorem removed_of_later (hle : first.sinceEpoch ≤ last.sinceEpoch) :
    ((s.reclaimed last).reclaim first).1 = 0 := by
  have hsize := size_reclaimed_add_removed (s.reclaimed last) first
  rw [reclaimed_of_later hle] at hsize
  omega

end Store

end Admission
