import Admission.Proofs.Readiness.Discipline

/-!
# A request that nobody disturbs

Requests under way are decided layer by layer, at moments of their own.  One that is advanced
until it ends, with nothing else in between, is dealt with as a stack of layers deals with it all
at once: it gets the same answer, and leaves the stores the same.

* `Journey.begun` — the journey of a request that was just brought;
* `run_advance_eq_descend` — how it goes on, from layer to layer;
* `answer_eq_call` — the whole of it, from the question whether the service is ready.
-/

namespace Admission

namespace Journey

/-- The journey of a request that was just brought to layers around an instance. -/
def begun (layers : List Layer) (n : Nat) (parcel : Parcel) : Journey :=
  match layers with
  | [] => .serving n parcel
  | layer :: rest => .deciding layer (.stack rest n) parcel

end Journey

theorem Assembly.journey_call_stack (layers : List Layer) (n : Nat) (parcel : Parcel)
    (s : Instances) : ((stack layers n).call parcel s).2.1 = Journey.begun layers n parcel := by
  cases layers <;> rfl

namespace Traffic

variable {σ : Type} {t : Traffic σ} {i n : Nat} {parcel : Parcel} {journey : Journey}

/-- A journey is advanced with the stores as they are. -/
theorem step_advance (ask : Nat → String → σ → Reply σ) (h : t.journeys[i]? = some journey) :
    (t.step ask (.advance i)).journeys[i]? = some (journey.advance ask t.instances t.stores).1 ∧
      (t.step ask (.advance i)).stores = (journey.advance ask t.instances t.stores).2.2 := by
  obtain ⟨hlt, -⟩ := List.getElem?_eq_some_iff.1 h
  constructor
  · simp only [step, h]
    exact List.getElem?_set_self hlt
  · simp only [step, h]

/-- Nothing is advanced about a journey that was rejected. -/
theorem run_advance_of_rejected (ask : Nat → String → σ → Reply σ) {rejection : Rejection}
    (h : t.journeys[i]? = some (.rejected rejection)) (k : Nat) :
    (t.run ask (List.replicate k (.advance i))).journeys[i]? = some (.rejected rejection) ∧
      (t.run ask (List.replicate k (.advance i))).stores = t.stores := by
  induction k generalizing t with
  | zero => exact ⟨h, rfl⟩
  | succ k ih =>
    obtain ⟨hjourney, hstores⟩ := step_advance ask h
    obtain ⟨hlast, hleft⟩ := ih hjourney
    exact ⟨hlast, hleft.trans hstores⟩

/-- **Layer by layer, a journey ends as a stack decides.** -/
theorem run_advance_eq_descend (layers : List Layer) (ask : Nat → String → σ → Reply σ)
    (service : Service) (depth : Nat) (h : t.journeys[i]? = some (.begun layers n parcel)) :
    let last := t.run ask (List.replicate layers.length (.advance i))
    let outcome := Stack.descend ask service parcel.request depth t.stores layers
    last.journeys[i]?.bind (Journey.answer? service) = some outcome.answer ∧
      last.stores = outcome.state := by
  induction layers generalizing t depth with
  | nil =>
    refine ⟨?_, rfl⟩
    show t.journeys[i]?.bind _ = _
    rw [h]
    rfl
  | cons layer rest ih =>
    obtain ⟨hjourney, hstores⟩ := step_advance ask h
    simp only [List.length_cons, List.replicate_succ, run, List.foldl_cons, Stack.descend]
    cases hverdict : (layer.evaluate ask parcel.request t.stores).verdict with
    | reject rejection =>
      simp only [Journey.begun, Journey.advance, hverdict] at hjourney hstores
      obtain ⟨hlast, hleft⟩ := run_advance_of_rejected ask hjourney rest.length
      rw [run] at hlast hleft
      rw [hlast, hleft, hstores]
      exact ⟨rfl, rfl⟩
    | proceed =>
      simp only [Journey.begun, Journey.advance, hverdict] at hjourney hstores
      rw [Assembly.journey_call_stack] at hjourney
      obtain ⟨hlast, hleft⟩ := ih (depth + 1) hjourney
      rw [hstores] at hlast hleft
      exact ⟨hlast, hleft⟩

/-- A caller may always wait for a request. -/
theorem heeds_replicate_advance (ask : Nat → String → σ → Reply σ) (t : Traffic σ) (i k : Nat) :
    t.heeds ask (List.replicate k (.advance i)) = true := by
  induction k generalizing t with
  | zero => rfl
  | succ k ih => exact ih (t.step ask (.advance i))

/-- **A request is answered as by the stack**, when its caller asks first, as it has to, is told
that the service is ready, and nobody else comes in between. -/
theorem answer_eq_call (layers : List Layer) (ask : Nat → String → σ → Reply σ)
    (service : Service) (hready : service.ready = .ok ()) (r : Request) (stores : σ) :
    let moves := .poll .ready :: .call r :: List.replicate layers.length (.advance 0)
    let last := (opening layers stores).run ask moves
    let outcome := Stack.call layers ask service r stores
    (opening layers stores).heeds ask moves = true ∧
      last.journeys[0]?.bind (Journey.answer? service) = some outcome.answer ∧
      last.stores = outcome.state := by
  let asked := (opening layers stores).step ask (.poll .ready)
  let called := asked.step ask (.call r)
  have hgranted : asked.granted = true := by
    simp only [asked, step, Assembly.poll_eq, decide_true]
  have hheeds : (opening layers stores).heeds ask
      (.poll .ready :: .call r :: List.replicate layers.length (.advance 0)) = true :=
    Bool.and_eq_true_iff.2 ⟨rfl, Bool.and_eq_true_iff.2
      ⟨hgranted, heeds_replicate_advance ask called 0 layers.length⟩⟩
  have hbegun : called.journeys[0]? = some (.begun layers 0 ⟨0, r⟩) :=
    congrArg some (Assembly.journey_call_stack layers 0 ⟨0, r⟩ _)
  rw [Stack.call, hready]
  exact ⟨hheeds, run_advance_eq_descend layers ask service 0 hbegun⟩

end Traffic
end Admission
