import Admission.Site
import Admission.Proofs.Layer.Protocol
import Admission.Proofs.Store.Serving

/-!
# What requests cost a site

Doors cost a site the questions that they ask, and which question a request is charged for can be
told from the door and the request alone.  So a run with doors leaves a site as the run without
doors does in which each request is replaced by its question; and a request that is charged for
nothing may be left out of a run, or put into it, and nobody else will notice.

* `Doors` — a kind of doors with what they charge for;
* `Errand.bare` — what is left of an errand without its door;
* `Doors.run_eq_bare` — a run with doors against one without;
* `Doors.run_unmarked` — requests that are charged for nothing, left out or put in;
* `Gate`, `Doors.gates` — one layer before a service;
* `Site.gates_cost_charges` — both for gates over shared stores.
-/

namespace Admission

/-- What a request is charged for: a question to a store. -/
structure Charge where
  store : Nat
  id : String
deriving DecidableEq

variable {δ ε α β : Type}

/-- What is left of an errand without its door: of a request, the question that it is charged for,
if there is one. -/
def Errand.bare (charge? : δ → Request → Option Charge) : Errand δ → Option (Errand Empty)
  | .setClock now => some (.setClock now)
  | .advanceClock nanoseconds => some (.advanceClock nanoseconds)
  | .reclaim store => some (.reclaim store)
  | .count store => some (.count store)
  | .ask store id => some (.ask store id)
  | .request door r => (charge? door r).map fun c => .ask c.store c.id

/-- The same errand with another request. -/
def Errand.withRequest (change : Request → Request) : Errand δ → Errand δ
  | .request door r => .request door (change r)
  | errand => errand

theorem Errand.bare_withRequest {charge? : δ → Request → Option Charge}
    {change : Request → Request} (h : ∀ door r, charge? door (change r) = charge? door r)
    (errand : Errand δ) : (errand.withRequest change).bare charge? = errand.bare charge? := by
  cases errand with
  | request door r => exact congrArg (Option.map _) (h door r)
  | setClock _ | advanceClock _ | reclaim _ | count _ | ask _ _ => rfl

/-- The decision that was reported, if it was one. -/
def Report.decision? : Report α → Option (Except StoreError Bool)
  | .decision answer => some answer
  | _ => none

/-- The entries of a list that are not marked. -/
def unmarked (entries : List (α × Bool)) : List α :=
  (entries.filter fun e => !e.2).map Prod.fst

@[simp] theorem unmarked_cons_true (a : α) (rest : List (α × Bool)) :
    unmarked ((a, true) :: rest) = unmarked rest := rfl

@[simp] theorem unmarked_cons_false (a : α) (rest : List (α × Bool)) :
    unmarked ((a, false) :: rest) = a :: unmarked rest := rfl

namespace Site

/-- A site has nothing to do at a door that it does not have. -/
def noDoors (_ : Site) (door : Empty) (_ : Request) : Site × Empty :=
  nomatch door

/-- The site after a charge, if there is one. -/
def charged (s : Site) (c : Option Charge) : Site :=
  c.elim s fun c => (s.ask c.store c.id).state

theorem run_cons (serve : Site → δ → Request → Site × α) (s : Site) (errand : Errand δ)
    (rest : List (Errand δ)) :
    s.run serve (errand :: rest) =
      (((s.step serve errand).1.run serve rest).1,
        (s.step serve errand).2 :: ((s.step serve errand).1.run serve rest).2) := rfl

/-- A clock that is moved forward out of its range reports so and stays; otherwise it is moved,
whatever doors there are. -/
theorem step_advanceClock (serve : Site → δ → Request → Site × α) (s : Site) (nanoseconds : Int) :
    (s.step serve (.advanceClock nanoseconds)).1 =
      { s with clock := (s.clock.advance? nanoseconds).getD s.clock } := by
  simp only [step]
  cases s.clock.advance? nanoseconds <;> rfl

/-- Without doors, the answers that a site notes are those that it reports. -/
theorem answers_run_noDoors (s : Site) (errands : List (Errand Empty)) :
    (s.run noDoors errands).1.inquiries.map Inquiry.answer =
      ((s.run noDoors errands).2.filterMap Report.decision?).reverse ++
        s.inquiries.map Inquiry.answer := by
  induction errands generalizing s with
  | nil => rfl
  | cons errand rest ih =>
    rw [run_cons]
    dsimp only
    rw [ih]
    cases errand with
    | setClock now | count store => rfl
    | advanceClock nanoseconds =>
      simp only [step]
      cases s.clock.advance? nanoseconds <;> rfl
    | reclaim store =>
      simp only [step, reclaim]
      split <;> rfl
    | ask store id =>
      simp [step, ask, Report.decision?]
    | request door => exact nomatch door

end Site

/-- A kind of doors, with what a request is charged for at each: it costs the site just that. -/
structure Doors (δ α : Type) where
  serve : Site → δ → Request → Site × α
  charge? : δ → Request → Option Charge
  cost : ∀ s door r, (serve s door r).1 = s.charged (charge? door r)

namespace Doors

variable (D : Doors δ α)

/-- What an errand does to a site, it does without its door. -/
theorem step_eq_bare (s : Site) (errand : Errand δ) :
    (s.step D.serve errand).1 =
      (errand.bare D.charge?).elim s fun e => (s.step Site.noDoors e).1 := by
  cases errand with
  | setClock _ | reclaim _ | count _ | ask _ _ => rfl
  | advanceClock nanoseconds =>
    rw [Site.step_advanceClock]
    exact (Site.step_advanceClock Site.noDoors s nanoseconds).symm
  | request door r =>
    show (D.serve s door r).1 = _
    rw [D.cost, Errand.bare]
    cases D.charge? door r <;> rfl

/-- **A run leaves a site as the run without doors does**, in which every request is replaced by
the question that it is charged for. -/
theorem run_eq_bare (s : Site) (errands : List (Errand δ)) :
    (s.run D.serve errands).1 =
      (s.run Site.noDoors (errands.filterMap (Errand.bare D.charge?))).1 := by
  induction errands generalizing s with
  | nil => rfl
  | cons errand rest ih =>
    have hstep := D.step_eq_bare s errand
    rw [Site.run_cons]
    dsimp only
    rw [ih, hstep]
    cases hbare : errand.bare D.charge? with
    | none => rw [List.filterMap_cons_none hbare, Option.elim_none]
    | some e => rw [List.filterMap_cons_some hbare, Option.elim_some, Site.run_cons]

/-- Runs at any two kinds of doors leave a site alike if they charge it for the same questions, at
the same readings of the clock. -/
theorem run_congr {E : Doors ε β} {errands : List (Errand δ)} {others : List (Errand ε)}
    (h : errands.filterMap (Errand.bare D.charge?) = others.filterMap (Errand.bare E.charge?))
    (s : Site) : (s.run D.serve errands).1 = (s.run E.serve others).1 := by
  rw [D.run_eq_bare, E.run_eq_bare, h]

/-- Whatever else is changed about the requests of a run, they cost a site the same if they are
charged for the same. -/
theorem run_withRequest {change : Request → Request}
    (h : ∀ door r, D.charge? door (change r) = D.charge? door r) (s : Site)
    (errands : List (Errand δ)) :
    (s.run D.serve (errands.map (Errand.withRequest change))).1 = (s.run D.serve errands).1 := by
  have hbare : Errand.bare D.charge? ∘ Errand.withRequest change = Errand.bare D.charge? :=
    funext (Errand.bare_withRequest h)
  refine D.run_congr ?_ s
  rw [List.filterMap_map, hbare]

/-- **Requests that are charged for nothing may be left out of a run.**  The site is left as it
would be with them, and everybody else gets the same answers. -/
theorem run_unmarked {marked : List (Errand δ × Bool)}
    (hfree : ∀ e, (e, true) ∈ marked → ∃ door r, e = .request door r ∧ D.charge? door r = none)
    (s : Site) :
    (s.run D.serve (unmarked marked)).1 = (s.run D.serve (marked.map Prod.fst)).1 ∧
      (s.run D.serve (unmarked marked)).2 =
        unmarked ((s.run D.serve (marked.map Prod.fst)).2.zip (marked.map Prod.snd)) := by
  induction marked generalizing s with
  | nil => exact ⟨rfl, rfl⟩
  | cons entry rest ih =>
    have hrest := ih fun e he => hfree e (List.mem_cons_of_mem _ he)
    obtain ⟨errand, mark⟩ := entry
    cases mark with
    | false =>
      obtain ⟨hsite, hreports⟩ := hrest (s.step D.serve errand).1
      rw [unmarked_cons_false, List.map_cons, List.map_cons, Site.run_cons, Site.run_cons,
        List.zip_cons_cons, unmarked_cons_false]
      exact ⟨hsite, congrArg _ hreports⟩
    | true =>
      obtain ⟨door, r, rfl, hcharge⟩ := hfree errand List.mem_cons_self
      -- The request leaves the site as it finds it.
      have hsame : (s.step D.serve (.request door r)).1 = s := by
        rw [D.step_eq_bare, Errand.bare, hcharge]
        rfl
      rw [unmarked_cons_true, List.map_cons, List.map_cons, Site.run_cons, List.zip_cons_cons,
        unmarked_cons_true, hsame]
      exact hrest s

end Doors

/-! ## Gates -/

/-- A gate: one layer before a service. -/
structure Gate where
  layer : Layer
  service : Service

namespace Gate

/-- A request comes to the layer and the service behind it. -/
def serve (s : Site) (g : Gate) (r : Request) : Site × Outcome Site :=
  s.enter [g.layer] g.service r

/-- What a request is charged for: its identifier at the layer's store.  A service that is not
ready keeps it from the layer. -/
def charge? (g : Gate) (r : Request) : Option Charge :=
  match g.service.ready with
  | .error _ => none
  | .ok () => (g.layer.charge? r).map fun id => ⟨g.layer.store, id⟩

/-- A request that is free at a gate: the layer skips it, or finds no identifier. -/
def Free (g : Gate) (r : Request) : Prop :=
  g.layer.skips r = true ∨ ∃ cause, g.layer.extractor r = .error cause

theorem charge?_of_free {g : Gate} {r : Request} (h : g.Free r) : g.charge? r = none := by
  unfold charge?
  cases g.service.ready with
  | error _ => rfl
  | ok => rw [Layer.charge?_eq_none_iff.2 h]; rfl

end Gate

namespace Site

theorem charged_map (s : Site) (store : Nat) (id : Option String) :
    s.charged (id.map fun id => ⟨store, id⟩) = id.elim s fun id => (s.ask store id).state := by
  cases id <;> rfl

/-- What a layer leaves of a site: its store is asked for the identifier, if there is one. -/
theorem left_eq_charged (s : Site) (l : Layer) (r : Request) :
    l.left ask r s = s.charged ((l.charge? r).map fun id => ⟨l.store, id⟩) := by
  rw [charged_map, Layer.left]
  cases l.charge? r <;> rfl

end Site

/-- Gates cost a site the identifiers that their layers find. -/
def Doors.gates : Doors Gate (Outcome Site) where
  serve := Gate.serve
  charge? := Gate.charge?
  cost := by
    intro s g r
    show (Stack.call [g.layer] Site.ask g.service r s).state = _
    unfold Stack.call Gate.charge?
    cases g.service.ready with
    | error _ => rfl
    | ok =>
      rw [← Site.left_eq_charged]
      rcases g.layer.proceeds_or_rejects Site.ask r s with hproceeds | ⟨x, hrejects⟩
      · rw [Stack.descend_of_proceeds hproceeds]
        rfl
      · rw [Stack.descend_of_rejects hrejects]

namespace Site

/-- **Gates cost a site their charges, and nothing else.**  A run of requests at gates over any
stores, shared or not, with steps of the clock and passes, leaves the stores as the same questions
do without the gates, asked in the same order at the same readings of the clock; and the stores
gave the same answers.  So requests that are free may be left out of a run, or put into it: the
stores are left alike, and all other requests get the same responses. -/
theorem gates_cost_charges (s : Site) :
    (∀ errands : List (Errand Gate),
      let bare := s.run noDoors (errands.filterMap (Errand.bare Gate.charge?))
      (s.run Gate.serve errands).1 = bare.1 ∧
        (s.run Gate.serve errands).1.inquiries.map Inquiry.answer =
          (bare.2.filterMap Report.decision?).reverse ++ s.inquiries.map Inquiry.answer) ∧
    ∀ marked : List (Errand Gate × Bool),
      (∀ e, (e, true) ∈ marked → ∃ g r, e = .request g r ∧ g.Free r) →
      let whole := s.run Gate.serve (marked.map Prod.fst)
      let thinned := s.run Gate.serve (unmarked marked)
      thinned.1 = whole.1 ∧ thinned.2 = unmarked (whole.2.zip (marked.map Prod.snd)) := by
  constructor
  · intro errands bare
    have hsite : (s.run Gate.serve errands).1 = bare.1 := Doors.gates.run_eq_bare s errands
    exact ⟨hsite, by rw [hsite]; exact answers_run_noDoors s _⟩
  · intro marked hfree
    refine Doors.gates.run_unmarked (fun e he => ?_) s
    obtain ⟨g, r, rfl, h⟩ := hfree e he
    exact ⟨g, r, rfl, Gate.charge?_of_free h⟩

/-- Two gates share a store that gives everybody one token.  The second one skips all requests, so
that the request to it may be left out between the two that are charged. -/
theorem gates_cost_charges_of_shared_store :
    let service : Service := ⟨.ok (), fun _ => .ok ⟨.ok, [], ""⟩⟩
    let charging : Layer := { Layer.ofStore 0 with extractor := fun _ => .ok "alice" }
    let skipping : Layer := { charging with skipper := some fun _ => true }
    let r : Request := ⟨"GET", ⟨none, "", "/", none⟩, [], none, none, false, ""⟩
    let s := opening .epoch [.memory (.empty .oneASecond)]
    let marked : List (Errand Gate × Bool) :=
      [(.request ⟨charging, service⟩ r, false), (.request ⟨skipping, service⟩ r, true),
        (.request ⟨charging, service⟩ r, false)]
    let whole := s.run Gate.serve (marked.map Prod.fst)
    let thinned := s.run Gate.serve (unmarked marked)
    (∀ e, (e, true) ∈ marked → ∃ g r, e = .request g r ∧ g.Free r) ∧
      thinned.1 = whole.1 ∧ thinned.2 = unmarked (whole.2.zip (marked.map Prod.snd)) ∧
      whole.1.inquiries.map (fun i => i.answer.toOption) = [some false, some true] := by
  intro service charging skipping r s marked whole thinned
  have hfree : ∀ e, (e, true) ∈ marked → ∃ g r, e = .request g r ∧ g.Free r := by
    intro e he
    have he : e = .request ⟨skipping, service⟩ r := by simpa [marked] using he
    exact ⟨_, _, he, .inl rfl⟩
  obtain ⟨hsite, hreports⟩ := (gates_cost_charges s).2 marked hfree
  exact ⟨hfree, hsite, hreports, by decide +kernel⟩

end Site
end Admission
