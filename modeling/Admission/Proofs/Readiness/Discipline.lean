import Admission.Proofs.Readiness.Custody

/-!
# Layers keep an instance for the request that it was found ready for

The instance that the caller was told about goes into the hands of the request that the caller
calls with, and from layer to layer with it, however late the layers decide and whatever the
caller does in the meantime.  Each layer keeps a copy, and the copies are what is asked next.  So
this file only says who holds what: each move of the caller, of a request or of the stores is one
of the changes of hands, and the rest is known of those.

* `Assembly.renewed`, `Assembly.copy_eq` — the same layers around another instance, which is what
  a copy is;
* `Traffic.custody` — who holds which instance;
* `change_advance`, `change_step` — how it changes;
* `calls_reach_the_promised_instance` — what that means for every run of a caller that calls only
  when it was told that it may.
-/

namespace Admission

open Occurrence (Disciplined callee? isReady)

namespace Assembly

/-- Whether there are layers. -/
def isLayered : Assembly → Bool
  | .service _ => false
  | .layered _ _ => true

/-- The same layers around another instance. -/
def renewed (n : Nat) : Assembly → Assembly
  | .service _ => .service n
  | .layered layer inner => .layered layer (inner.renewed n)

@[simp] theorem innermost_renewed (a : Assembly) (n : Nat) : (a.renewed n).innermost = n := by
  induction a with
  | service m => rfl
  | layered layer inner ih => exact ih

@[simp] theorem innermost_stack (layers : List Layer) (n : Nat) :
    (stack layers n).innermost = n := by
  induction layers with
  | nil => rfl
  | cons layer rest ih => exact ih

@[simp] theorem isLayered_stack (layers : List Layer) (n : Nat) :
    (stack layers n).isLayered = !layers.isEmpty := by
  cases layers <;> rfl

/-- A question gets through to the innermost instance, and its answer back. -/
theorem poll_eq (a : Assembly) (answer : Readiness) (s : Instances) :
    a.poll answer s = (answer, s.record (.polled a.innermost answer)) := by
  induction a with
  | service n => rfl
  | layered layer inner ih => exact ih

/-- A copy is the same layers around a new instance. -/
theorem copy_eq (a : Assembly) (s : Instances) :
    a.copy s =
      (a.renewed s.next, { s with next := s.next + 1 }.record (.copied a.innermost s.next)) := by
  induction a with
  | service n => rfl
  | layered layer inner ih =>
    rw [copy, ih]
    rfl

end Assembly

namespace Journey

/-- The instance that a request is going to call if the layers let it, and the request. -/
def due? : Journey → Option (Nat × Parcel)
  | .deciding _ inner parcel => some (inner.innermost, parcel)
  | .serving _ _ | .rejected _ | .abandoned => none

end Journey

namespace Traffic

variable {σ : Type} {ask : Nat → String → σ → Reply σ} {t : Traffic σ} {i : Nat}
  {journey : Journey}

/-- What is due to each request. -/
def due (journeys : List Journey) (i : Nat) : Option (Nat × Parcel) :=
  journeys[i]?.bind Journey.due?

theorem due_append (journeys : List Journey) (journey : Journey) :
    due (journeys ++ [journey]) = Function.update (due journeys) journeys.length journey.due? := by
  funext i
  rw [Function.update_apply, due, due]
  split
  · next heq => rw [heq, List.getElem?_concat_length, Option.bind_some]
  · next hne =>
    rcases Nat.lt_or_gt_of_ne hne with hlt | hgt
    · rw [List.getElem?_append_left hlt]
    · rw [List.getElem?_eq_none (Nat.le_of_lt hgt), List.getElem?_eq_none]
      rw [List.length_append]
      exact hgt

theorem due_set (journeys : List Journey) (h : i < journeys.length) (journey : Journey) :
    due (journeys.set i journey) = Function.update (due journeys) i journey.due? := by
  funext j
  rw [Function.update_apply, due, due]
  split
  · next heq => rw [heq, List.getElem?_set_self h, Option.bind_some]
  · next hne => rw [List.getElem?_set_ne (Ne.symm hne)]

/-- Who holds which instance. -/
def custody (t : Traffic σ) : Custody where
  layered := t.assembly.isLayered
  top := t.assembly.innermost
  due := due t.journeys
  granted := t.granted
  next := t.instances.next
  count := t.journeys.length
  history := t.instances.history

variable {assembly : Assembly} {granted : Bool} {instances : Instances}
  {journeys : List Journey} {stores : σ}

/-- Who holds which instance when a request has come. -/
theorem custody_append (journey : Journey) :
    custody ⟨assembly, granted, instances, journeys ++ [journey], stores⟩ =
      ⟨assembly.isLayered, assembly.innermost,
        Function.update (due journeys) journeys.length journey.due?, granted, instances.next,
        journeys.length + 1, instances.history⟩ := by
  simp only [custody, due_append, List.length_append, List.length_singleton]

/-- Who holds which instance when a request has got further. -/
theorem custody_set (h : i < journeys.length) (journey : Journey) :
    custody ⟨assembly, granted, instances, journeys.set i journey, stores⟩ =
      ⟨assembly.isLayered, assembly.innermost, Function.update (due journeys) i journey.due?,
        granted, instances.next, journeys.length, instances.history⟩ := by
  simp only [custody, due_set journeys h, List.length_set]

/-- The caller calls: what it holds goes to the request, or is called at once. -/
theorem change_call (hgranted : t.granted = true) (request : Request) :
    t.custody.Change (t.step ask (.call request)).custody := by
  obtain ⟨assembly, granted, instances, journeys, stores⟩ := t
  let parcel : Parcel := ⟨journeys.length, request⟩
  cases assembly with
  | service n =>
    simp only [step, Assembly.call]
    rw [custody_append]
    exact @Custody.Change.served _ parcel rfl hgranted rfl
  | layered layer inner =>
    simp only [step, Assembly.call, Assembly.copy_eq]
    rw [custody_append, Assembly.innermost, Assembly.innermost_renewed]
    exact @Custody.Change.taken _ parcel hgranted rfl

/-- A journey that is given up lets its instance go. -/
theorem change_abandon (t : Traffic σ) (i : Nat) :
    t.custody.Change (t.step ask (.abandon i)).custody := by
  obtain ⟨assembly, granted, instances, journeys, stores⟩ := t
  rcases Nat.lt_or_ge i journeys.length with hlt | hge
  · simp only [step]
    rw [custody_set hlt]
    exact .ended i
  · simp only [step, List.set_eq_of_length_le hge]
    exact .still

/-- A journey is advanced: the request keeps the instance in its hands, calls it, or is rejected
and lets it go. -/
theorem change_advance (t : Traffic σ) (i : Nat) :
    t.custody.Change (t.step ask (.advance i)).custody := by
  obtain ⟨assembly, granted, instances, journeys, stores⟩ := t
  cases hjourney : journeys[i]? with
  | none =>
    simp only [step, hjourney]
    exact .still
  | some journey =>
    obtain ⟨hlt, -⟩ := List.getElem?_eq_some_iff.1 hjourney
    simp only [step, hjourney]
    rw [custody_set hlt]
    cases journey with
    | serving _ _ | rejected _ | abandoned => exact .ended i
    | deciding layer inner parcel =>
      have hdue : due journeys i = some (inner.innermost, parcel) := by
        rw [due, hjourney]
        rfl
      cases hverdict : (layer.evaluate ask parcel.request stores).verdict with
      | reject rejection =>
        simp only [Journey.advance, hverdict]
        exact .ended i
      | proceed =>
        simp only [Journey.advance, hverdict]
        cases inner with
        | service n => exact .delivered hdue
        | layered further inner =>
          -- The instance stays with the request; the copy stays behind, in nobody's hands.
          simp only [Assembly.call, Assembly.copy_eq]
          have hsame : Function.update (due journeys) i (some (inner.innermost, parcel)) =
              due journeys := by
            rw [← Assembly.innermost, ← hdue, Function.update_eq_self]
          rw [Journey.due?, hsame]
          exact .passed hdue

/-- **Every move that the caller may make changes hands in one of the seven ways.** -/
theorem change_step {move : Move σ} (hpermits : t.permits move = true) :
    t.custody.Change (t.step ask move).custody := by
  cases move with
  | poll answer =>
    simp only [step, Assembly.poll_eq]
    exact .asked answer
  | call request => exact change_call hpermits request
  | advance i => exact change_advance t i
  | abandon i => exact change_abandon t i
  | drift stores => exact .still

/-! ## Runs -/

/-- A first instance, which nobody has asked yet, is in the caller's hands. -/
theorem orderly_opening (layers : List Layer) (stores : σ) :
    (opening layers stores).custody.Orderly := by
  have htop : (opening layers stores).custody.top = 0 := Assembly.innermost_stack layers 0
  refine .of_untouched ?_ (fun _ => rfl) rfl rfl
  rw [htop]
  exact Nat.zero_lt_one

/-- **No run breaks it**, if the caller calls only when it may. -/
theorem orderly_run {moves : List (Move σ)} (h : t.custody.Orderly)
    (hheeds : t.heeds ask moves = true) : (t.run ask moves).custody.Orderly := by
  induction moves generalizing t with
  | nil => exact h
  | cons move rest ih =>
    obtain ⟨hpermits, hrest⟩ := Bool.and_eq_true_iff.1 hheeds
    exact ih (h.change (change_step hpermits)) hrest

/-- Layers are neither put on nor taken off. -/
theorem layered_run {moves : List (Move σ)} (hheeds : t.heeds ask moves = true) :
    (t.run ask moves).assembly.isLayered = t.assembly.isLayered := by
  induction moves generalizing t with
  | nil => rfl
  | cons move rest ih =>
    obtain ⟨hpermits, hrest⟩ := Bool.and_eq_true_iff.1 hheeds
    exact (ih hrest).trans (change_step hpermits).layered_eq

/-- **A call reaches the instance that was found ready for it.**  Take any layers, whatever they
decide and whatever becomes of the stores, and a caller that asks and calls as often as it likes,
but calls only when the last answer was that the service is ready and it has not called since.
Let its requests be advanced at any moments and in any order, to the service or to a rejection, or
be given up.  Then every call that comes to an instance finds it ready, and the instance is the
one that the caller was told about before it called with this request; none is called on the
strength of an answer that another call has used up; and behind layers none is called twice. -/
theorem calls_reach_the_promised_instance (layers : List Layer)
    (ask : Nat → String → σ → Reply σ) (stores : σ) (moves : List (Move σ))
    (hheeds : (opening layers stores).heeds ask moves = true) :
    Disciplined (!layers.isEmpty) ((opening layers stores).run ask moves).instances.history := by
  have hlayered : ((opening layers stores).run ask moves).custody.layered = !layers.isEmpty :=
    (layered_run hheeds).trans (Assembly.isLayered_stack layers 0)
  rw [← hlayered]
  exact (orderly_run (orderly_opening layers stores) hheeds).disciplined

/-- Two layers share a store with five tokens, and the caller brings three requests.  The second
one overtakes the first, and the third one is rejected by the inner layer. -/
theorem calls_reach_the_promised_instance_of_overtaking :
    let r : Request := ⟨"GET", ⟨none, "", "/", none⟩, [], none, none, false, ""⟩
    let one : Layer := { Layer.ofStore 0 with extractor := fun _ => .ok "alice" }
    let ask : Nat → String → Nat → Reply Nat :=
      fun _ _ tokens => ⟨.ok (decide (0 < tokens)), tokens - 1, []⟩
    let moves : List (Move Nat) := [.poll .pending, .poll .ready, .call r, .poll .ready, .call r,
      .poll .ready, .call r, .advance 0, .advance 1, .advance 1, .advance 2, .advance 0, .advance 2]
    let history := ((opening [one, one] 5).run ask moves).instances.history
    (opening [one, one] 5).heeds ask moves = true ∧ history.filterMap callee? = [0, 1] ∧
      Disciplined true history := by
  intro r one ask moves history
  have hheeds : (opening [one, one] 5).heeds ask moves = true := by decide +kernel
  have hcalls : history.filterMap callee? = [0, 1] := by decide +kernel
  exact ⟨hheeds, hcalls, calls_reach_the_promised_instance [one, one] ask 5 moves hheeds⟩

/-- A caller that calls twice on one answer: its second request comes to an instance that nobody
has found ready. -/
example :
    let r : Request := ⟨"GET", ⟨none, "", "/", none⟩, [], none, none, false, ""⟩
    let one : Layer := { Layer.ofStore 0 with extractor := fun _ => .ok "alice" }
    let ask : Nat → String → Unit → Reply Unit := fun _ _ _ => ⟨.ok true, (), []⟩
    let moves : List (Move Unit) := [.poll .ready, .call r, .call r, .advance 1]
    (opening [one] ()).heeds ask moves = false ∧
      ∃ parcel past,
        ((opening [one] ()).run ask moves).instances.history = .called 1 parcel :: past ∧
          isReady 1 past = false :=
  ⟨rfl, _, _, rfl, rfl⟩

end Traffic
end Admission
