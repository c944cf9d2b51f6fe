import Mathlib.Data.List.Nodup
import Admission.Layer

/-!
# The course of a request through one layer

A layer comes to one of six ends with a request, and each end says all that it did: its verdict,
what it left of the stores and its actions in order.  Everything else about a layer is read off
the course that the request took.

* `Layer.skips`, `Layer.charge?`, `Layer.left` — who pays, for whom, and what it costs;
* `Layer.course_evaluate` — the six ends;
* `Layer.Does`, `Layer.Proceeds`, `Layer.Rejects` — when a layer acts, lets go on, and rejects,
  one rule for each way it may come about;
* `Layer.mem_actions_evaluate`, `Layer.sorted_actions_evaluate` — a layer keeps these rules, does
  nothing else, and does things in their order.
-/

namespace Admission

/-- Where an action stands among those of its layer.  No two actions of one stage are meant to
befall one request. -/
def Action.stage : Action → Nat
  | .askedSkipper => 0
  | .ranBefore => 1
  | .extracted => 2
  | .askedStore _ _ => 3
  | .denied _ | .handledError _ => 4

/-- What an action does to the stores: only a question changes them. -/
def Action.affect {σ : Type} (ask : Nat → String → σ → Reply σ) (s : σ) : Action → σ
  | .askedStore store id => (ask store id s).state
  | _ => s

namespace Layer

variable {σ : Type}

/-- Whether a layer lets a request go on without a look at it. -/
def skips (l : Layer) (r : Request) : Bool :=
  l.skipper.any fun skip => skip r

/-- The identifier that a request is charged to, if it is charged at all. -/
def charge? (l : Layer) (r : Request) : Option String :=
  if l.skips r then none else (l.extractor r).toOption

/-- What a layer leaves of the stores: it asks its own one for the identifier, if there is one. -/
def left (l : Layer) (ask : Nat → String → σ → Reply σ) (r : Request) (s : σ) : σ :=
  match l.charge? r with
  | none => s
  | some id => (ask l.store id s).state

/-- When a layer does something with a request, which finds the stores as they are. -/
inductive Does (l : Layer) (ask : Nat → String → σ → Reply σ) (r : Request) (s : σ) : Action → Prop
  | askedSkipper : l.skipper.isSome = true → Does l ask r s .askedSkipper
  | ranBefore : l.skips r = false → l.before = true → Does l ask r s .ranBefore
  | extracted : l.skips r = false → Does l ask r s .extracted
  | askedStore {id : String} : l.charge? r = some id → Does l ask r s (.askedStore l.store id)
  | denied {id : String} : l.charge? r = some id → (ask l.store id s).answer = .ok false →
      Does l ask r s (.denied id)
  | unidentified {cause : IdentifierError} : l.skips r = false → l.extractor r = .error cause →
      Does l ask r s (.handledError (.identifier cause))
  | undecided {id : String} {cause : StoreError} : l.charge? r = some id →
      (ask l.store id s).answer = .error cause → l.onStoreError = .failClosed →
      Does l ask r s (.handledError (.store cause))

/-- When a layer lets a request go on. -/
inductive Proceeds (l : Layer) (ask : Nat → String → σ → Reply σ) (r : Request) (s : σ) : Prop
  | skipped : l.skips r = true → Proceeds l ask r s
  | admitted {id : String} : l.charge? r = some id → (ask l.store id s).answer = .ok true →
      Proceeds l ask r s
  | waived {id : String} {cause : StoreError} : l.charge? r = some id →
      (ask l.store id s).answer = .error cause → l.onStoreError = .failOpen → Proceeds l ask r s

/-- When a layer rejects a request, and with what: its handlers say, each given the cause. -/
inductive Rejects (l : Layer) (ask : Nat → String → σ → Reply σ) (r : Request) (s : σ) :
    Rejection → Prop
  | denied {id : String} : l.charge? r = some id → (ask l.store id s).answer = .ok false →
      Rejects l ask r s (l.onDenial r id)
  | unidentified {cause : IdentifierError} : l.skips r = false → l.extractor r = .error cause →
      Rejects l ask r s (l.onError r (.identifier cause))
  | undecided {id : String} {cause : StoreError} : l.charge? r = some id →
      (ask l.store id s).answer = .error cause → l.onStoreError = .failClosed →
      Rejects l ask r s (l.onError r (.store cause))

/-- The actions before the extractor runs. -/
def begun (l : Layer) : List Action :=
  (if l.skipper.isSome then [.askedSkipper] else []) ++ (if l.before then [.ranBefore] else [])

/-- The six ends that a layer may come to with a request, whatever it logs. -/
inductive Course (l : Layer) (ask : Nat → String → σ → Reply σ) (r : Request) (s : σ) :
    Evaluation σ → Prop
  | skipped (events : List Event) : l.skips r = true →
      Course l ask r s ⟨.proceed, s, [.askedSkipper], events⟩
  | unidentified (events : List Event) {cause : IdentifierError} : l.skips r = false →
      l.extractor r = .error cause →
      Course l ask r s ⟨.reject (l.onError r (.identifier cause)), s,
        l.begun ++ [.extracted, .handledError (.identifier cause)], events⟩
  | admitted (events : List Event) {id : String} : l.charge? r = some id →
      (ask l.store id s).answer = .ok true →
      Course l ask r s ⟨.proceed, (ask l.store id s).state,
        l.begun ++ [.extracted, .askedStore l.store id], events⟩
  | denied (events : List Event) {id : String} : l.charge? r = some id →
      (ask l.store id s).answer = .ok false →
      Course l ask r s ⟨.reject (l.onDenial r id), (ask l.store id s).state,
        l.begun ++ [.extracted, .askedStore l.store id, .denied id], events⟩
  | undecided (events : List Event) {id : String} {cause : StoreError} : l.charge? r = some id →
      (ask l.store id s).answer = .error cause → l.onStoreError = .failClosed →
      Course l ask r s ⟨.reject (l.onError r (.store cause)), (ask l.store id s).state,
        l.begun ++ [.extracted, .askedStore l.store id, .handledError (.store cause)], events⟩
  | waived (events : List Event) {id : String} {cause : StoreError} : l.charge? r = some id →
      (ask l.store id s).answer = .error cause → l.onStoreError = .failOpen →
      Course l ask r s ⟨.proceed, (ask l.store id s).state,
        l.begun ++ [.extracted, .askedStore l.store id], events⟩

variable {l : Layer} {ask : Nat → String → σ → Reply σ} {q r : Request} {s : σ} {id : String}

/-! ## Who is charged -/

theorem charge?_eq_some_iff :
    l.charge? r = some id ↔ l.skips r = false ∧ l.extractor r = .ok id := by
  unfold charge?
  cases l.skips r <;> cases l.extractor r <;> simp [Except.toOption]

/-- Nobody is charged for a request that is skipped, or that has no identifier. -/
theorem charge?_eq_none_iff :
    l.charge? r = none ↔ l.skips r = true ∨ ∃ cause, l.extractor r = .error cause := by
  unfold charge?
  cases l.skips r <;> cases l.extractor r <;> simp [Except.toOption]

theorem skips_of_charge? (h : l.charge? r = some id) : l.skips r = false :=
  (charge?_eq_some_iff.1 h).1

/-- A layer without a skipper skips nobody. -/
theorem skipper_of_skips (h : l.skips r = true) : l.skipper.isSome = true := by
  unfold skips at h
  cases hl : l.skipper with
  | some _ => rfl
  | none => rw [hl] at h; cases h

theorem charge?_congr (hskips : l.skips q = l.skips r) (hid : l.extractor q = l.extractor r) :
    l.charge? q = l.charge? r := by
  rw [charge?, charge?, hskips, hid]

theorem left_of_charge? (h : l.charge? r = some id) : l.left ask r s = (ask l.store id s).state := by
  rw [left, h]

theorem left_of_uncharged (h : l.charge? r = none) : l.left ask r s = s := by
  rw [left, h]

/-! ## The course -/

/-- The verdict on a request that is not skipped, with what was done before. -/
theorem evaluate_of_not_skips (h : l.skips r = false) :
    l.evaluate ask r s =
      { l.judge ask r s with actions := l.begun ++ (l.judge ask r s).actions } := by
  unfold skips at h
  rw [evaluate, if_neg (by simp [h])]
  rfl

/-- **A layer comes to one of six ends.** -/
theorem course_evaluate (l : Layer) (ask : Nat → String → σ → Reply σ) (r : Request) (s : σ) :
    l.Course ask r s (l.evaluate ask r s) := by
  cases hskips : l.skips r with
  | true =>
    have hasked := skipper_of_skips hskips
    have heval : l.evaluate ask r s =
        ⟨.proceed, s, [.askedSkipper], [.limitSkipped r.target.path]⟩ := by
      unfold skips at hskips
      rw [evaluate, if_pos hskips, if_pos hasked]
    rw [heval]
    exact .skipped _ hskips
  | false =>
    rw [evaluate_of_not_skips hskips]
    cases hid : l.extractor r with
    | error cause =>
      rw [judge, hid]
      exact .unidentified _ hskips hid
    | ok id =>
      have hcharge : l.charge? r = some id := charge?_eq_some_iff.2 ⟨hskips, hid⟩
      rw [judge, hid]
      dsimp only
      cases hanswer : (ask l.store id s).answer with
      | ok admitted =>
        rw [settle, hanswer]
        cases admitted with
        | true => exact .admitted _ hcharge hanswer
        | false => exact .denied _ hcharge hanswer
      | error cause =>
        rw [settle, hanswer]
        cases hpolicy : l.onStoreError with
        | failClosed => exact .undecided _ hcharge hanswer hpolicy
        | failOpen => exact .waived _ hcharge hanswer hpolicy

/-- What is left of the stores does not depend on the verdict. -/
@[simp] theorem state_evaluate (l : Layer) (ask : Nat → String → σ → Reply σ) (r : Request)
    (s : σ) : (l.evaluate ask r s).state = l.left ask r s := by
  have hcourse := course_evaluate l ask r s
  generalize l.evaluate ask r s = e at hcourse
  cases hcourse with
  | skipped _ hskips => exact (left_of_uncharged (charge?_eq_none_iff.2 (.inl hskips))).symm
  | unidentified _ _ hid => exact (left_of_uncharged (charge?_eq_none_iff.2 (.inr ⟨_, hid⟩))).symm
  | admitted _ hcharge | denied _ hcharge | undecided _ hcharge | waived _ hcharge =>
    exact (left_of_charge? hcharge).symm

/-- A request is rejected or goes on. -/
theorem proceeds_or_rejects (l : Layer) (ask : Nat → String → σ → Reply σ) (r : Request) (s : σ) :
    l.Proceeds ask r s ∨ ∃ x, l.Rejects ask r s x := by
  have hcourse := course_evaluate l ask r s
  generalize l.evaluate ask r s = e at hcourse
  cases hcourse with
  | skipped _ hskips => exact .inl (.skipped hskips)
  | admitted _ hcharge hanswer => exact .inl (.admitted hcharge hanswer)
  | waived _ hcharge hanswer hpolicy => exact .inl (.waived hcharge hanswer hpolicy)
  | unidentified _ hskips hid => exact .inr ⟨_, .unidentified hskips hid⟩
  | denied _ hcharge hanswer => exact .inr ⟨_, .denied hcharge hanswer⟩
  | undecided _ hcharge hanswer hpolicy => exact .inr ⟨_, .undecided hcharge hanswer hpolicy⟩

/-- **A request goes on when the rules say so.** -/
theorem verdict_of_proceeds (h : l.Proceeds ask r s) :
    (l.evaluate ask r s).verdict = .proceed := by
  have hcourse := course_evaluate l ask r s
  generalize l.evaluate ask r s = e at hcourse
  cases h <;> cases hcourse <;> grind [charge?_eq_some_iff]

/-- **A request is rejected with what the rules say.** -/
theorem verdict_of_rejects {x : Rejection} (h : l.Rejects ask r s x) :
    (l.evaluate ask r s).verdict = .reject x := by
  have hcourse := course_evaluate l ask r s
  generalize l.evaluate ask r s = e at hcourse
  cases h <;> cases hcourse <;> grind [charge?_eq_some_iff]

theorem Rejects.not_proceeds {x : Rejection} (h : l.Rejects ask r s x) :
    ¬ l.Proceeds ask r s := by
  intro hproceeds
  have hverdict := verdict_of_proceeds hproceeds
  rw [verdict_of_rejects h] at hverdict
  cases hverdict

/-- Whether a request goes on depends on whether it is skipped, and on its identifier. -/
theorem Proceeds.congr (hskips : l.skips q = l.skips r) (hid : l.extractor q = l.extractor r)
    (h : l.Proceeds ask q s) : l.Proceeds ask r s := by
  have hcharge := charge?_congr hskips hid
  cases h with
  | skipped h => exact .skipped (hskips ▸ h)
  | admitted h hanswer => exact .admitted (hcharge ▸ h) hanswer
  | waived h hanswer hpolicy => exact .waived (hcharge ▸ h) hanswer hpolicy

/-! ## What is done, and in what order -/

theorem mem_begun {a : Action} : a ∈ l.begun ↔
    a = .askedSkipper ∧ l.skipper.isSome = true ∨ a = .ranBefore ∧ l.before = true := by
  unfold begun
  cases l.skipper.isSome <;> cases l.before <;> simp

/-- A request that is not skipped meets the hook and the extractor, whatever follows. -/
theorem forall_mem_begun {rest : List Action} (hskips : l.skips r = false)
    (hrest : ∀ a ∈ rest, l.Does ask r s a) :
    ∀ a ∈ l.begun ++ .extracted :: rest, l.Does ask r s a := by
  intro a ha
  rcases List.mem_append.1 ha with hbegun | hlater
  · rcases mem_begun.1 hbegun with ⟨rfl, hskipper⟩ | ⟨rfl, hbefore⟩
    · exact .askedSkipper hskipper
    · exact .ranBefore hskips hbefore
  · rcases List.mem_cons.1 hlater with rfl | hmem
    · exact .extracted hskips
    · exact hrest a hmem

/-- A request with an identifier meets the store as well. -/
theorem forall_mem_charged {rest : List Action} (hcharge : l.charge? r = some id)
    (hrest : ∀ a ∈ rest, l.Does ask r s a) :
    ∀ a ∈ l.begun ++ .extracted :: .askedStore l.store id :: rest, l.Does ask r s a :=
  forall_mem_begun (skips_of_charge? hcharge) (List.forall_mem_cons.2 ⟨.askedStore hcharge, hrest⟩)

/-- Whatever a layer does, its rules say. -/
theorem Course.does {e : Evaluation σ} (h : l.Course ask r s e) :
    ∀ a ∈ e.actions, l.Does ask r s a := by
  cases h with
  | skipped _ hskips =>
    exact List.forall_mem_singleton.2 (.askedSkipper (skipper_of_skips hskips))
  | unidentified _ hskips hid =>
    exact forall_mem_begun hskips (List.forall_mem_singleton.2 (.unidentified hskips hid))
  | admitted _ hcharge | waived _ hcharge =>
    exact forall_mem_charged hcharge (List.forall_mem_nil _)
  | denied _ hcharge hanswer =>
    exact forall_mem_charged hcharge (List.forall_mem_singleton.2 (.denied hcharge hanswer))
  | undecided _ hcharge hanswer hpolicy =>
    exact forall_mem_charged hcharge
      (List.forall_mem_singleton.2 (.undecided hcharge hanswer hpolicy))

/-- **A layer does what its rules say, and nothing else.** -/
theorem mem_actions_evaluate {a : Action} :
    a ∈ (l.evaluate ask r s).actions ↔ l.Does ask r s a := by
  have hcourse := course_evaluate l ask r s
  generalize l.evaluate ask r s = e at hcourse
  constructor
  · exact hcourse.does a
  · -- Each rule fixes which courses the request can have taken.
    intro ha
    cases ha <;> cases hcourse <;> grind [mem_begun, charge?_eq_some_iff]

/-- What comes before the extractor is in order, and so is all of it if the rest is. -/
theorem sorted_begun_append {rest : List Action}
    (hrest : rest.Pairwise fun a b => a.stage < b.stage) (hlate : ∀ a ∈ rest, 2 ≤ a.stage) :
    (l.begun ++ rest).Pairwise fun a b => a.stage < b.stage := by
  have hearly : ∀ a ∈ l.begun, a.stage < 2 := by
    intro a ha
    rcases mem_begun.1 ha with ⟨rfl, -⟩ | ⟨rfl, -⟩ <;> decide
  refine List.pairwise_append.2 ⟨?_, hrest, fun a ha b hb =>
    Nat.lt_of_lt_of_le (hearly a ha) (hlate b hb)⟩
  unfold begun
  cases l.skipper.isSome <;> cases l.before <;> simp [Action.stage]

/-- **A layer does things in their order**, none of them twice. -/
theorem sorted_actions_evaluate (l : Layer) (ask : Nat → String → σ → Reply σ) (r : Request)
    (s : σ) : (l.evaluate ask r s).actions.Pairwise fun a b => a.stage < b.stage := by
  have hcourse := course_evaluate l ask r s
  generalize l.evaluate ask r s = e at hcourse
  cases hcourse with
  | skipped => exact List.pairwise_singleton _ _
  | unidentified | admitted | denied | undecided | waived =>
    exact sorted_begun_append (by simp [Action.stage]) (by simp [Action.stage])

/-- A layer does nothing twice. -/
theorem nodup_actions_evaluate (l : Layer) (ask : Nat → String → σ → Reply σ) (r : Request)
    (s : σ) : (l.evaluate ask r s).actions.Nodup := by
  refine (l.sorted_actions_evaluate ask r s).imp ?_
  rintro a b hlt rfl
  exact Nat.lt_irrefl _ hlt

/-- A layer looks for the identifier of a request once, unless it skips the request. -/
theorem count_extracted (hskips : l.skips r = false) :
    (l.evaluate ask r s).actions.count .extracted = 1 :=
  List.count_eq_one_of_mem (l.nodup_actions_evaluate ask r s)
    (mem_actions_evaluate.2 (.extracted hskips))

/-- A layer asks its store once for the identifier that a request is charged to, and asks no other
question. -/
theorem count_askedStore (l : Layer) (ask : Nat → String → σ → Reply σ) (r : Request) (s : σ)
    (store : Nat) (id : String) :
    (l.evaluate ask r s).actions.count (.askedStore store id) =
      if store = l.store ∧ l.charge? r = some id then 1 else 0 := by
  split
  · next h =>
    obtain ⟨rfl, hcharge⟩ := h
    exact List.count_eq_one_of_mem (l.nodup_actions_evaluate ask r s)
      (mem_actions_evaluate.2 (.askedStore hcharge))
  · next h =>
    refine List.count_eq_zero_of_not_mem fun hmem => h ?_
    cases mem_actions_evaluate.1 hmem with
    | askedStore hcharge => exact ⟨rfl, hcharge⟩

/-- The stores are left as the actions of a layer leave them. -/
theorem foldl_actions_evaluate (l : Layer) (ask : Nat → String → σ → Reply σ) (r : Request)
    (s : σ) : (l.evaluate ask r s).actions.foldl (Action.affect ask) s = l.left ask r s := by
  have hbegun : l.begun.foldl (Action.affect ask) s = s := by
    unfold begun
    cases l.skipper.isSome <;> cases l.before <;> rfl
  rw [← state_evaluate]
  have hcourse := course_evaluate l ask r s
  generalize l.evaluate ask r s = e at hcourse
  cases hcourse with
  | skipped => rfl
  | unidentified | admitted | denied | undecided | waived =>
    rw [List.foldl_append, hbegun]
    rfl

end Layer
end Admission
