import Mathlib.Data.List.Nodup
import Mathlib.Logic.Function.Basic
import Admission.Readiness

/-!
# Whose an instance is

What the layers do with an instance, once what they decide is left out of account, is to pass it
from hand to hand.  The caller holds the one behind the layers, and every request under way the
one that it is going to call.  An instance that was found ready stays so in whatever hand it is,
because nobody else can ask or call it; all that other hands do is done to other instances.

* `Occurrence.Due` — an instance may be called for a request: it is ready, and it is the one that
  the caller was told about before it called;
* `Occurrence.Disciplined` — what is asked of the whole history;
* `Custody`, `Custody.Change` — who holds what, and the seven ways in which that changes;
* `Sound.change`, `Numbered.change`, `Unspent.change` — what every change preserves.
-/

namespace Admission

namespace Occurrence

/-- The instance that is called, if one is. -/
def callee? : Occurrence → Option Nat
  | .called n _ => some n
  | _ => none

/-- The request that the service as a whole is called with, if it is. -/
def accepted? : Occurrence → Option Parcel
  | .accepted parcel => some parcel
  | _ => none

/-- The instance that the caller was told about: the one that was asked last, if it said that it
is ready and no request was accepted since. -/
def promised? : List Occurrence → Option Nat
  | [] => none
  | .polled n answer :: _ => if answer = .ready then some n else none
  | .accepted _ :: _ => none
  | .copied _ _ :: past | .called _ _ :: past => promised? past

/-- An event has no bearing on whether an instance is ready. -/
def Spares (n : Nat) : Occurrence → Prop
  | .polled m _ | .copied _ m | .called m _ => m ≠ n
  | .accepted _ => True

/-- An instance may be called for a request: it is ready, and when the request was accepted it was
the one that the caller had been told about. -/
structure Due (past : List Occurrence) (n : Nat) (parcel : Parcel) : Prop where
  ready : isReady n past = true
  promised : ∃ earlier, .accepted parcel :: earlier <:+ past ∧ promised? earlier = some n

/-- Whatever instance is called may be called for the request that it gets. -/
def Faithful (history : List Occurrence) : Prop :=
  ∀ n parcel past, .called n parcel :: past <:+ history → Due past n parcel

/-- What is asked of all that has happened to a service, behind layers or not. -/
structure Disciplined (layered : Bool) (history : List Occurrence) : Prop where
  /-- Every call goes to the instance that the caller was told about before it brought the
  request, and finds it ready. -/
  faithful : Faithful history
  /-- An instance that was called is not called again unless it was found ready again. -/
  renewed : ∀ n parcel later between past,
    .called n later :: (between ++ .called n parcel :: past) <:+ history →
      .polled n .ready ∈ between
  /-- Behind layers, no instance is called twice. -/
  once : layered = true → (history.filterMap callee?).Nodup
  /-- The requests are told apart by their numbers. -/
  distinct : ((history.filterMap accepted?).map Parcel.number).Nodup

variable {n : Nat} {event : Occurrence} {past history : List Occurrence} {parcel : Parcel}

/-! ## What an event leaves as it was -/

theorem isReady_cons_of_spares (h : event.Spares n) (past : List Occurrence) :
    isReady n (event :: past) = isReady n past := by
  cases event with
  | polled m answer => exact if_neg h
  | copied m copy => exact if_neg h
  | accepted parcel => rfl
  | called m parcel => exact if_neg h

/-- An instance stays due as long as it is spared. -/
theorem Due.cons (h : Due past n parcel) (hspares : event.Spares n) :
    Due (event :: past) n parcel := by
  obtain ⟨earlier, hsuffix, hpromised⟩ := h.promised
  refine ⟨?_, earlier, hsuffix.trans (List.suffix_cons event past), hpromised⟩
  rw [isReady_cons_of_spares hspares]
  exact h.ready

theorem Faithful.cons (h : Faithful history) (hcallee : event.callee? = none) :
    Faithful (event :: history) := by
  intro n parcel past hsuffix
  rcases List.suffix_cons_iff.1 hsuffix with heq | hearlier
  · cases heq
    cases hcallee
  · exact h n parcel past hearlier

theorem Faithful.called (h : Faithful history) (hdue : Due history n parcel) :
    Faithful (.called n parcel :: history) := by
  intro m other past hsuffix
  rcases List.suffix_cons_iff.1 hsuffix with heq | hearlier
  · cases heq
    exact hdue
  · exact h m other past hearlier

/-- An instance that is ready after it was called has been found ready in between. -/
theorem polled_mem_of_isReady {between : List Occurrence}
    (h : isReady n (between ++ .called n parcel :: past) = true) : .polled n .ready ∈ between := by
  induction between with
  | nil => simp [isReady] at h
  | cons event rest ih =>
    rw [List.cons_append] at h
    by_cases hspares : event.Spares n
    · rw [isReady_cons_of_spares hspares] at h
      exact List.mem_cons_of_mem _ (ih h)
    · cases event with
      | accepted parcel => exact absurd trivial hspares
      | polled m answer =>
        obtain rfl : m = n := not_not.1 hspares
        simp only [isReady, if_true, decide_eq_true_eq] at h
        subst h
        exact List.mem_cons_self
      | copied m copy =>
        obtain rfl : copy = n := not_not.1 hspares
        simp [isReady] at h
      | called m parcel =>
        obtain rfl : m = n := not_not.1 hspares
        simp [isReady] at h

end Occurrence

/-- Who holds which instance: the caller the one on top, and a request the one that is due to it;
whether the caller was told that it may call; the number of the next instance and of the next
request; and what has happened.  Without layers the instance on top is called as it is. -/
structure Custody where
  layered : Bool
  top : Nat
  due : Nat → Option (Nat × Parcel)
  granted : Bool
  next : Nat
  count : Nat
  history : List Occurrence

namespace Custody

open Occurrence

/-- How instances change hands. -/
inductive Change (c : Custody) : Custody → Prop
  /-- Nothing happens. -/
  | still : Change c c
  /-- The caller asks, and the instance on top answers. -/
  | asked (answer : Readiness) : Change c { c with
      granted := decide (answer = .ready)
      history := .polled c.top answer :: c.history }
  /-- The caller calls; a request takes the instance on top, and leaves a copy. -/
  | taken {parcel : Parcel} : c.granted = true → parcel.number = c.count → Change c { c with
      top := c.next
      due := Function.update c.due c.count (some (c.top, parcel))
      granted := false
      next := c.next + 1
      count := c.count + 1
      history := .copied c.top c.next :: .accepted parcel :: c.history }
  /-- The caller calls, and with no layer in between it is the instance that is called. -/
  | served {parcel : Parcel} : c.layered = false → c.granted = true →
      parcel.number = c.count → Change c { c with
        due := Function.update c.due c.count none
        granted := false
        count := c.count + 1
        history := .called c.top parcel :: .accepted parcel :: c.history }
  /-- A request goes one layer further, where another copy is left, and keeps its instance. -/
  | passed {i n : Nat} {parcel : Parcel} : c.due i = some (n, parcel) → Change c { c with
      next := c.next + 1
      history := .copied n c.next :: c.history }
  /-- A request calls its instance. -/
  | delivered {i n : Nat} {parcel : Parcel} : c.due i = some (n, parcel) → Change c { c with
      due := Function.update c.due i none
      history := .called n parcel :: c.history }
  /-- A request is rejected or given up, and its instance is called by nobody. -/
  | ended (i : Nat) : Change c { c with due := Function.update c.due i none }

variable {c d : Custody} {i j n : Nat} {parcel : Parcel} {x : Nat × Parcel}

/-- Layers are neither put on nor taken off. -/
theorem Change.layered_eq (hd : Change c d) : d.layered = c.layered := by
  cases hd <;> rfl

/-- What is due to a request after one of them was given something else. -/
theorem update_eq_some_iff {due : Nat → Option (Nat × Parcel)} {value : Option (Nat × Parcel)} :
    Function.update due i value j = some x ↔ j = i ∧ value = some x ∨ j ≠ i ∧ due j = some x := by
  by_cases hj : j = i
  · subst hj
    simp
  · simp [hj]

/-- What is due to a request after one of them has let its instance go. -/
theorem update_none_eq_some_iff {due : Nat → Option (Nat × Parcel)} :
    Function.update due i none j = some x ↔ j ≠ i ∧ due j = some x := by
  rw [update_eq_some_iff]
  simp

/-! ## Every instance in one hand -/

/-- Every instance is in one hand at most, none is a copy that is still to be made, and those that
are to be called are ready. -/
structure Sound (c : Custody) : Prop where
  apart : ∀ i n parcel, c.due i = some (n, parcel) → n ≠ c.top
  sole : ∀ i j n parcel other, c.due i = some (n, parcel) → c.due j = some (n, other) → i = j
  top_lt : c.top < c.next
  due_lt : ∀ i n parcel, c.due i = some (n, parcel) → n < c.next
  told : c.granted = true → promised? c.history = some c.top ∧ isReady c.top c.history = true
  due : ∀ i n parcel, c.due i = some (n, parcel) → Due c.history n parcel
  faithful : Faithful c.history

namespace Sound

/-- The instance that the caller was told about is due to the request that it calls with. -/
theorem due_top (h : Sound c) (hgranted : c.granted = true) (parcel : Parcel) :
    Due (.accepted parcel :: c.history) c.top parcel :=
  ⟨(h.told hgranted).2, c.history, List.suffix_rfl, (h.told hgranted).1⟩

/-- An instance that leaves a hand leaves the others as they were. -/
theorem release (h : Sound c) (i : Nat) :
    Sound { c with due := Function.update c.due i none } where
  apart := fun j n parcel hj => h.apart j n parcel (update_none_eq_some_iff.1 hj).2
  sole := fun j k n parcel other hj hk =>
    h.sole j k n parcel other (update_none_eq_some_iff.1 hj).2 (update_none_eq_some_iff.1 hk).2
  top_lt := h.top_lt
  due_lt := fun j n parcel hj => h.due_lt j n parcel (update_none_eq_some_iff.1 hj).2
  told := h.told
  due := fun j n parcel hj => h.due j n parcel (update_none_eq_some_iff.1 hj).2
  faithful := h.faithful

/-- The instance on top is asked, and the caller is told what it answers. -/
theorem ask (h : Sound c) (answer : Readiness) :
    Sound { c with
      granted := decide (answer = .ready), history := .polled c.top answer :: c.history } where
  apart := h.apart
  sole := h.sole
  top_lt := h.top_lt
  due_lt := h.due_lt
  told := by
    intro hgranted
    have hready : answer = .ready := of_decide_eq_true hgranted
    subst hready
    exact ⟨rfl, by simp [isReady]⟩
  due := fun i n parcel hdue => (h.due i n parcel hdue).cons (h.apart i n parcel hdue).symm
  faithful := h.faithful.cons rfl

/-- The caller calls, and what it was told before counts no more. -/
theorem accept (h : Sound c) (parcel : Parcel) :
    Sound { c with
      granted := false, count := c.count + 1, history := .accepted parcel :: c.history } where
  apart := h.apart
  sole := h.sole
  top_lt := h.top_lt
  due_lt := h.due_lt
  told := (nomatch ·)
  due := fun i n parcel hdue => (h.due i n parcel hdue).cons trivial
  faithful := h.faithful.cons rfl

/-- A copy is made, which is in no hand. -/
theorem copy (h : Sound c) (n : Nat) :
    Sound { c with next := c.next + 1, history := .copied n c.next :: c.history } where
  apart := h.apart
  sole := h.sole
  top_lt := Nat.lt_succ_of_lt h.top_lt
  due_lt := fun i n parcel hdue => Nat.lt_succ_of_lt (h.due_lt i n parcel hdue)
  told := by
    intro hgranted
    have hspares : (Occurrence.copied n c.next).Spares c.top := (Nat.ne_of_lt h.top_lt).symm
    rw [isReady_cons_of_spares hspares]
    exact h.told hgranted
  due := fun i n parcel hdue =>
    (h.due i n parcel hdue).cons (Nat.ne_of_lt (h.due_lt i n parcel hdue)).symm
  faithful := h.faithful.cons rfl

/-- An instance that is due is called, and nobody else counts on it. -/
theorem call (h : Sound c) (hdue : Due c.history n parcel) (htop : c.granted = true → n ≠ c.top)
    (hothers : ∀ i m other, c.due i = some (m, other) → n ≠ m) :
    Sound { c with history := .called n parcel :: c.history } where
  apart := h.apart
  sole := h.sole
  top_lt := h.top_lt
  due_lt := h.due_lt
  told := by
    intro hgranted
    have hspares : (Occurrence.called n parcel).Spares c.top := htop hgranted
    rw [isReady_cons_of_spares hspares]
    exact h.told hgranted
  due := fun i m other hm => (h.due i m other hm).cons (hothers i m other hm)
  faithful := h.faithful.called hdue

/-- The instance on top goes to a request that it is due to, and one that is in no hand takes its
place. -/
theorem handOver (h : Sound c) (hgranted : c.granted = false) (hdue : Due c.history c.top parcel)
    (htop : n ≠ c.top) (hlt : n < c.next)
    (hothers : ∀ i m other, c.due i = some (m, other) → m ≠ n) (i : Nat) :
    Sound { c with top := n, due := Function.update c.due i (some (c.top, parcel)) } where
  apart := by
    intro j m other hm
    rcases update_eq_some_iff.1 hm with ⟨-, hnew⟩ | ⟨-, hold⟩
    · cases hnew
      exact htop.symm
    · exact hothers j m other hold
  sole := by
    intro j k m first second hj hk
    rcases update_eq_some_iff.1 hj with ⟨rfl, hnew⟩ | ⟨-, hold⟩ <;>
      rcases update_eq_some_iff.1 hk with ⟨rfl, hnew'⟩ | ⟨-, hold'⟩
    · rfl
    · cases hnew
      exact absurd rfl (h.apart k _ _ hold')
    · cases hnew'
      exact absurd rfl (h.apart j _ _ hold)
    · exact h.sole j k m first second hold hold'
  top_lt := hlt
  due_lt := by
    intro j m other hm
    rcases update_eq_some_iff.1 hm with ⟨-, hnew⟩ | ⟨-, hold⟩
    · cases hnew
      exact h.top_lt
    · exact h.due_lt j m other hold
  told := by
    intro htold
    exact absurd (hgranted.symm.trans htold) Bool.false_ne_true
  due := by
    intro j m other hm
    rcases update_eq_some_iff.1 hm with ⟨-, hnew⟩ | ⟨-, hold⟩
    · cases hnew
      exact hdue
    · exact h.due j m other hold
  faithful := h.faithful

/-- **No change breaks it.** -/
theorem change (h : Sound c) (hd : Change c d) : Sound d := by
  cases hd with
  | still => exact h
  | asked answer => exact h.ask answer
  | @taken parcel hgranted _ =>
    have hdue : Due (.copied c.top c.next :: .accepted parcel :: c.history) c.top parcel :=
      (h.due_top hgranted parcel).cons (Nat.ne_of_lt h.top_lt).symm
    exact ((h.accept parcel).copy c.top).handOver rfl hdue (Nat.ne_of_lt h.top_lt).symm
      (Nat.lt_succ_self _) (fun i m other hm => Nat.ne_of_lt (h.due_lt i m other hm)) c.count
  | @served parcel _ hgranted _ =>
    have hreleased := (h.accept parcel).release c.count
    exact hreleased.call (h.due_top hgranted parcel) (nomatch ·)
      fun i m other hm => (hreleased.apart i m other hm).symm
  | @passed i n parcel hdue => exact h.copy n
  | @delivered i n parcel hdue =>
    refine (h.release i).call (h.due i n parcel hdue) (fun _ => h.apart i n parcel hdue) ?_
    -- The request that calls was the only one to hold the instance.
    rintro j m other hm rfl
    obtain ⟨hne, hj⟩ := update_none_eq_some_iff.1 hm
    exact hne (h.sole j i n other parcel hj hdue)
  | ended i => exact h.release i

end Sound

/-! ## Every request its number -/

/-- Requests are numbered in their order. -/
structure Numbered (c : Custody) : Prop where
  number_lt : ∀ parcel ∈ c.history.filterMap accepted?, parcel.number < c.count
  distinct : ((c.history.filterMap accepted?).map Parcel.number).Nodup

namespace Numbered

theorem accept (h : Numbered c) (hnumber : parcel.number = c.count) :
    Numbered { c with count := c.count + 1, history := .accepted parcel :: c.history } where
  number_lt := by
    intro other hmem
    rcases List.mem_cons.1 hmem with rfl | hmem
    · exact hnumber ▸ Nat.lt_succ_self _
    · exact Nat.lt_succ_of_lt (h.number_lt other hmem)
  distinct := by
    refine List.nodup_cons.2 ⟨?_, h.distinct⟩
    intro hmem
    obtain ⟨other, hother, heq⟩ := List.mem_map.1 hmem
    have hlt := h.number_lt other hother
    omega

/-- **No change breaks that.** -/
theorem change (h : Numbered c) (hd : Change c d) : Numbered d := by
  cases hd with
  | still => exact h
  | taken _ hnumber | served _ _ hnumber =>
    have haccepted := h.accept hnumber
    exact ⟨haccepted.number_lt, haccepted.distinct⟩
  | asked _ | passed _ | delivered _ | ended _ => exact ⟨h.number_lt, h.distinct⟩

end Numbered

/-! ## No instance a second time -/

/-- Behind layers, an instance that was called is in no hand any more, and not called again. -/
structure Unspent (c : Custody) : Prop where
  layered : c.layered = true
  called_lt : ∀ n ∈ c.history.filterMap callee?, n < c.next
  top_unspent : c.top ∉ c.history.filterMap callee?
  due_unspent : ∀ i n parcel, c.due i = some (n, parcel) → n ∉ c.history.filterMap callee?
  once : (c.history.filterMap callee?).Nodup

namespace Unspent

theorem release (h : Unspent c) (i : Nat) :
    Unspent { c with due := Function.update c.due i none } :=
  ⟨h.layered, h.called_lt, h.top_unspent,
    fun j n parcel hj => h.due_unspent j n parcel (update_none_eq_some_iff.1 hj).2, h.once⟩

/-- **No change breaks that either.** -/
theorem change (h : Unspent c) (hc : Sound c) (hd : Change c d) : Unspent d := by
  cases hd with
  | still => exact h
  | asked _ => exact ⟨h.layered, h.called_lt, h.top_unspent, h.due_unspent, h.once⟩
  | taken _ _ =>
    refine ⟨h.layered, fun n hn => Nat.lt_succ_of_lt (h.called_lt n hn), ?_, ?_, h.once⟩
    · exact fun hmem => Nat.lt_irrefl _ (h.called_lt _ hmem)
    · intro i n other hn
      rcases update_eq_some_iff.1 hn with ⟨-, hnew⟩ | ⟨-, hold⟩
      · cases hnew
        exact h.top_unspent
      · exact h.due_unspent i n other hold
  | served hlayered _ _ => exact absurd (h.layered.symm.trans hlayered) Bool.noConfusion
  | passed _ =>
    exact ⟨h.layered, fun n hn => Nat.lt_succ_of_lt (h.called_lt n hn), h.top_unspent,
      h.due_unspent, h.once⟩
  | @delivered i n parcel hdue =>
    have hfresh : n ∉ c.history.filterMap callee? := h.due_unspent i n parcel hdue
    refine ⟨h.layered, ?_, ?_, ?_, List.nodup_cons.2 ⟨hfresh, h.once⟩⟩
    · exact List.forall_mem_cons.2 ⟨hc.due_lt i n parcel hdue, h.called_lt⟩
    · intro hmem
      rcases List.mem_cons.1 hmem with heq | hmem
      · exact hc.apart i n parcel hdue heq.symm
      · exact h.top_unspent hmem
    · intro j m other hm hmem
      obtain ⟨hne, hj⟩ := update_none_eq_some_iff.1 hm
      rcases List.mem_cons.1 hmem with rfl | hmem
      · exact hne (hc.sole j i m other parcel hj hdue)
      · exact h.due_unspent j m other hj hmem
  | ended i => exact h.release i

end Unspent

/-! ## All of it -/

/-- Every instance in one hand, every request with its number, and behind layers no instance
called that is still in a hand. -/
structure Orderly (c : Custody) : Prop where
  sound : Sound c
  numbered : Numbered c
  unspent : c.layered = true → Unspent c

namespace Orderly

/-- Before anything has happened. -/
theorem of_untouched (htop : c.top < c.next) (hdue : ∀ i, c.due i = none)
    (hgranted : c.granted = false) (hhistory : c.history = []) : Orderly c := by
  have hnothing : ∀ i x, c.due i ≠ some x := by
    intro i x hx
    rw [hdue i] at hx
    cases hx
  have hnobody : ∀ n, n ∉ c.history.filterMap callee? := by
    rw [hhistory]
    exact fun _ => List.not_mem_nil
  have hsound : Sound c :=
    { apart := fun i _ _ hi => absurd hi (hnothing i _)
      sole := fun i _ _ _ _ hi => absurd hi (hnothing i _)
      top_lt := htop
      due_lt := fun i _ _ hi => absurd hi (hnothing i _)
      told := fun htold => absurd (hgranted.symm.trans htold) Bool.false_ne_true
      due := fun i _ _ hi => absurd hi (hnothing i _)
      faithful := by
        intro n parcel past hsuffix
        rw [hhistory, List.suffix_nil] at hsuffix
        cases hsuffix }
  refine ⟨hsound, ⟨?_, ?_⟩, fun hlayered => ⟨hlayered, ?_, hnobody _, fun _ n _ _ => hnobody n, ?_⟩⟩
  · rw [hhistory]
    exact fun _ hmem => absurd hmem List.not_mem_nil
  · rw [hhistory]
    exact List.nodup_nil
  · exact fun n hmem => absurd hmem (hnobody n)
  · rw [hhistory]
    exact List.nodup_nil

theorem change (h : Orderly c) (hd : Change c d) : Orderly d where
  sound := h.sound.change hd
  numbered := h.numbered.change hd
  unspent := fun hlayered => (h.unspent (hd.layered_eq ▸ hlayered)).change h.sound hd

/-- What is asked of a history, then, is kept. -/
theorem disciplined (h : Orderly c) : Disciplined c.layered c.history where
  faithful := h.sound.faithful
  renewed := fun n _ later _ _ hsuffix =>
    polled_mem_of_isReady (h.sound.faithful n later _ hsuffix).ready
  once := fun hlayered => (h.unspent hlayered).once
  distinct := h.numbered.distinct

end Orderly
end Custody
end Admission
