import Admission.Proofs.Reclaimer.Ticker
import Admission.Upkeep

/-!
# What a loop does with its turns

A loop that is neither told anything nor ended makes the passes of its ticker while there is a
store, and ends at the first tick that finds none.  A loop that was told to stop ends with its
next turn, before a tick that is not due yet.  Of several loops only those that go on do anything.

* `Loop.Waits` — a loop that goes on, with nothing heard and nothing due yet;
* `attend_of_ended`, `attend_of_told`, `Waits.attend_live`, `Waits.attend_freed` — its turns;
* `Upkeep.OthersEnded` — loops of which one at most goes on;
* `attendAll_of_ended`, `attendAll_of_one` — the turns of all the loops.
-/

namespace Admission

namespace Shared

@[simp] theorem pass?_live (store : Store) (others : Nat) (clock : Instant) :
    (live store others).pass? clock =
      some (live (store.reclaim clock).2.1 others, (store.reclaim clock).2.2) := rfl

@[simp] theorem pass?_freed (clock : Instant) : freed.pass? clock = none := rfl

/-- A store with no reference to it is gone, and one with a single reference has no others. -/
theorem eq_of_holders {s : Shared} {owned : Bool} (h : s.holders = owned.toNat) :
    (owned = true ∧ ∃ store, s = live store 0) ∨ (owned = false ∧ s = freed) := by
  cases s with
  | freed =>
    cases owned with
    | true => cases h
    | false => exact .inr ⟨rfl, rfl⟩
  | live store others =>
    cases owned with
    | true =>
      obtain rfl : others = 0 := Nat.succ.inj h
      exact .inl ⟨rfl, store, rfl⟩
    | false => cases h

end Shared

namespace Loop

variable {favours : Loop → Bool} {passage : Passage} {now opens target : Nat} {clock : Instant}
  {l : Loop} {shared : Shared}

/-- A loop that goes on: it has heard nothing, and its next tick is not due yet. -/
structure Waits (l : Loop) (now : Nat) : Prop where
  ended : l.ended = false
  signal : l.signal = .silent
  pending : now < l.ticker.due

/-- A loop that has ended does nothing. -/
theorem attend_of_ended (h : l.ended = true) :
    l.attend favours opens target clock shared = ⟨l, shared, [], []⟩ := by
  rw [attend, if_pos h]

/-- **A loop that is told to stop ends**, before its next tick. -/
theorem attend_of_told (hended : l.ended = false) (hunseen : l.signal.unseen = true)
    (hflag : l.signal.flag = true) (hpending : opens < l.ticker.due) :
    l.attend favours opens target clock shared = ⟨{ l with ended := true }, shared, [], []⟩ := by
  have hchanged : l.signal.changed = true := by
    unfold Watched.changed
    rw [hunseen, Bool.true_or]
  have hstops : l.signal.stops = true := by
    unfold Watched.stops
    rw [hflag, Bool.or_true]
  rw [attend, if_neg (Bool.eq_false_iff.1 hended), if_pos ⟨hchanged, .inl hpending⟩, if_pos hstops]

/-- A tick that is not due yet fires at the moment at which its ticker has it fire. -/
theorem max_opens_eq_moment {t : Ticker} (hpending : now < t.due) (hdue : t.due ≤ target) :
    max (Upkeep.opens now target passage) t.due = t.moment passage target := by
  cases passage with
  | running => exact max_eq_right hpending.le
  | jumping => exact max_eq_left hdue

namespace Waits

theorem goes_on (h : l.Waits now) : ¬ l.ended = true :=
  Bool.eq_false_iff.1 h.ended

/-- A loop that has heard nothing has nothing but its ticker to go by. -/
theorem unchanged (h : l.Waits now) :
    ¬ (l.signal.changed = true ∧ (opens < l.ticker.due ∨ favours l = false)) := by
  rw [h.signal]
  rintro ⟨hchanged, -⟩
  cases hchanged

theorem fire (h : l.Waits now) (moment : Nat) :
    Waits { l with ticker := l.ticker.fire moment } now :=
  ⟨h.ended, h.signal, h.pending.trans (l.ticker.due_lt_due_fire moment)⟩

/-- A loop whose tick is not due waits on. -/
theorem attend_of_not_due (h : l.Waits now) (hdue : ¬ l.ticker.due ≤ target) :
    l.attend favours opens target clock shared = ⟨l, shared, [], []⟩ := by
  rw [attend, if_neg h.goes_on, if_neg h.unchanged, if_neg hdue]

/-- **Once the store is gone a loop ends at its next tick.** -/
theorem attend_freed (h : l.Waits now) (hdue : l.ticker.due ≤ target) :
    l.attend favours opens target clock .freed =
      ⟨{ l with ended := true }, .freed, [], [.reclaimerOrphaned]⟩ := by
  rw [attend, if_neg h.goes_on, if_neg h.unchanged, if_pos hdue, Shared.pass?_freed]

/-- **While there is a store a loop makes the passes of its ticker**, and lets go of the store. -/
theorem attend_live (h : l.Waits now) (store : Store) (others : Nat) :
    l.attend favours (Upkeep.opens now target passage) target clock (.live store others) =
      ⟨{ l with ticker := (l.ticker.catchUp passage target).2 },
        .live (Reclaimer.passes store clock (l.ticker.catchUp passage target).1.length).1 others,
        (l.ticker.catchUp passage target).1,
        (Reclaimer.passes store clock (l.ticker.catchUp passage target).1.length).2⟩ := by
  obtain ⟨ticker, signal, ended⟩ := l
  dsimp only
  induction ticker using Ticker.catchUp.induct passage target generalizing store with
  | case1 t hdue ih =>
    have hmoment : max (Upkeep.opens now target passage) t.due = t.moment passage target :=
      max_opens_eq_moment h.pending hdue
    have hrest := ih (store.reclaim clock).2.1 (h.fire (t.moment passage target))
    rw [attend, if_neg h.goes_on, if_neg h.unchanged, if_pos hdue, Shared.pass?_live]
    dsimp only
    rw [hmoment, hrest, Ticker.catchUp_of_due hdue]
    rfl
  | case2 t hdue =>
    rw [h.attend_of_not_due hdue, Ticker.catchUp_of_not_due hdue]
    rfl

end Waits

end Loop

namespace Upkeep

variable {favours : Nat → Loop → Bool} {opens target : Nat} {clock : Instant}
  {loops : List Loop} {shared : Shared} {i : Nat} {l : Loop}

/-! ## Several loops -/

/-- Every loop but the one at a place has ended. -/
def OthersEnded (loops : List Loop) (i : Nat) : Prop :=
  ∀ j m, loops[j]? = some m → j ≠ i → m.ended = true

/-- Loops that have ended do nothing. -/
theorem attendAll_of_ended (h : ∀ l ∈ loops, l.ended = true) (first : Nat) :
    attendAll favours opens target clock first loops shared = ⟨loops, shared, [], []⟩ := by
  induction loops generalizing first with
  | nil => rfl
  | cons l rest ih =>
    have hl : l.ended = true := h l (List.mem_cons_self ..)
    have hrest := ih (fun m hm => h m (List.mem_cons_of_mem _ hm)) (first + 1)
    simp only [attendAll, Loop.attend_of_ended hl, hrest, List.map_nil, List.append_nil]

/-- **Where one loop goes on, what it does is all that is done.** -/
theorem attendAll_of_one (hl : loops[i]? = some l) (h : OthersEnded loops i) (first : Nat) :
    let attended := l.attend (favours (first + i)) opens target clock shared
    attendAll favours opens target clock first loops shared =
      ⟨loops.set i attended.loop, attended.shared,
        attended.moments.map fun moment => ⟨first + i, moment⟩, attended.events⟩ := by
  intro attended
  induction loops generalizing i first with
  | nil => cases hl
  | cons m rest ih =>
    cases i with
    | zero =>
      obtain rfl : m = l := Option.some.inj hl
      have hrest : ∀ m ∈ rest, m.ended = true := by
        intro m hm
        obtain ⟨j, hj⟩ := List.getElem?_of_mem hm
        exact h (j + 1) m hj (Nat.succ_ne_zero j)
      simp only [attendAll, attendAll_of_ended hrest, List.append_nil, List.set_cons_zero,
        attended, Nat.add_zero]
    | succ i =>
      have hm : m.ended = true := h 0 m rfl (Nat.succ_ne_zero i).symm
      have hothers : OthersEnded rest i :=
        fun j m hj hne => h (j + 1) m hj fun heq => hne (Nat.succ.inj heq)
      have hrest := ih hl hothers (first + 1)
      rw [Nat.succ_add_eq_add_succ] at hrest
      simp only [attendAll, Loop.attend_of_ended hm, List.map_nil, List.nil_append, hrest,
        List.set_cons_succ, attended]

/-- Loops that have ended leave their place to one more. -/
theorem othersEnded_concat (h : ∀ l ∈ loops, l.ended = true) (l : Loop) :
    OthersEnded (loops ++ [l]) loops.length := by
  intro j m hm hne
  have hbound := (List.getElem?_eq_some_iff.1 hm).1
  rw [List.length_append, List.length_singleton] at hbound
  rw [List.getElem?_append_left (by omega)] at hm
  exact h m (List.mem_of_getElem? hm)

namespace OthersEnded

/-- The others have ended whatever becomes of the one. -/
theorem set (h : OthersEnded loops i) (after : Loop) : OthersEnded (loops.set i after) i := by
  intro j m hm hne
  rw [List.getElem?_set_ne hne.symm] at hm
  exact h j m hm hne

theorem modify (h : OthersEnded loops i) (f : Loop → Loop) :
    OthersEnded (loops.modify i f) i := by
  intro j m hm hne
  rw [List.getElem?_modify_ne _ _ hne.symm] at hm
  exact h j m hm hne

/-- With the one at the place they have all ended. -/
theorem ended (h : OthersEnded loops i) (hone : ∀ l, loops[i]? = some l → l.ended = true) :
    ∀ l ∈ loops, l.ended = true := by
  intro l hl
  obtain ⟨j, hj⟩ := List.getElem?_of_mem hl
  by_cases hij : j = i
  · subst hij
    exact hone l hj
  · exact h j l hj hij

end OthersEnded

/-- Hanging up leaves loops that have ended as they are. -/
theorem ended_hangUp {u : Upkeep} (h : ∀ l ∈ u.loops, l.ended = true) (i : Nat) :
    ∀ l ∈ (u.hangUp i).loops, l.ended = true := by
  have hothers : OthersEnded u.loops i := fun _ m hm _ => h m (List.mem_of_getElem? hm)
  refine (hothers.modify _).ended ?_
  intro l hl
  rw [List.getElem?_modify_eq] at hl
  obtain ⟨m, hm, rfl⟩ := Option.map_eq_some_iff.1 hl
  exact h m (List.mem_of_getElem? hm)

end Upkeep
end Admission
