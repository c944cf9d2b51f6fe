import Admission.Proofs.Layer.Course

/-!
# The protocol of a stack of layers

What a stack does with a request, said without an order of evaluation: a layer is reached if every
layer outside of it lets the request go on, each of them with the stores as the layers before it
leave them; a layer that is reached keeps its rules and nobody else does anything; the service is
reached if all layers let the request go on.  So the first layer that rejects the request answers
it, and nothing behind it stirs.

* `Stack.found` — the stores as they come to a layer;
* `Stack.Reaches` — the layers outside of a depth let the request go on;
* `Happening.Precedes` — what happens before what;
* `Stack.Protocol` — the rules that a request is dealt with by;
* `Stack.call_protocol` — a stack keeps them, whatever its layers, its stores and its service.
-/

namespace Admission

namespace Happening

/-- What happens before what: the layers act from the outermost inwards, each in the order of its
stages, and the service is called last. -/
def Precedes : Happening → Happening → Prop
  | .layer depth a, .layer deeper b => depth < deeper ∨ depth = deeper ∧ a.stage < b.stage
  | .layer _ _, .served _ => True
  | .served _, _ => False

/-- What a happening does to the stores: a layer's question changes them, nothing else does. -/
def affect {σ : Type} (ask : Nat → String → σ → Reply σ) (s : σ) : Happening → σ
  | .layer _ a => a.affect ask s
  | .served _ => s

end Happening

namespace Stack

variable {σ : Type}

/-- The stores as they come to the layer at a depth. -/
def found (ask : Nat → String → σ → Reply σ) (r : Request) (s : σ) (layers : List Layer)
    (depth : Nat) : σ :=
  (layers.take depth).foldl (fun s l => l.left ask r s) s

/-- All layers outside of a depth let the request go on. -/
def Reaches (ask : Nat → String → σ → Reply σ) (r : Request) (s : σ) (layers : List Layer)
    (depth : Nat) : Prop :=
  ∀ outer l, outer < depth → layers[outer]? = some l →
    l.Proceeds ask r (found ask r s layers outer)

/-- The rules that a stack of layers deals with a request by, when its service is ready. -/
structure Protocol (layers : List Layer) (ask : Nat → String → σ → Reply σ) (service : Service)
    (r : Request) (s : σ) (o : Outcome σ) : Prop where
  /-- Everything in its order, and nothing twice. -/
  ordered : o.happenings.Pairwise Happening.Precedes
  /-- A layer does what its rules say if it is reached, and nothing else. -/
  acts : ∀ depth a, .layer depth a ∈ o.happenings ↔
    ∃ l, layers[depth]? = some l ∧ Reaches ask r s layers depth ∧
      l.Does ask r (found ask r s layers depth) a
  /-- The service is called if it is reached, with the request as it came. -/
  serves : ∀ q, .served q ∈ o.happenings ↔ q = r ∧ Reaches ask r s layers layers.length
  /-- The service answers if it is reached; else the first layer that rejects the request does,
  and nothing behind that layer is reached. -/
  answers : Reaches ask r s layers layers.length ∧ o.answer = service.call r ∨
    ∃ depth l x, layers[depth]? = some l ∧ Reaches ask r s layers depth ∧
      l.Rejects ask r (found ask r s layers depth) x ∧ o.answer = .ok x.response ∧
      ∀ deeper, depth < deeper → ¬ Reaches ask r s layers deeper
  /-- The stores are left as the questions leave them. -/
  leaves : o.state = o.happenings.foldl (Happening.affect ask) s

variable {ask : Nat → String → σ → Reply σ} {service : Service} {r : Request} {s : σ} {l : Layer}
  {rest layers : List Layer} {x : Rejection} {depth : Nat}

/-! ## One layer before the rest -/

/-- The rest of a stack deals with a request that its outermost layer lets go on. -/
theorem descend_of_proceeds (h : l.Proceeds ask r s) (service : Service) (rest : List Layer)
    (depth : Nat) :
    let below := descend ask service r (depth + 1) (l.left ask r s) rest
    descend ask service r depth s (l :: rest) =
      ⟨below.answer, below.state,
        (l.evaluate ask r s).actions.map (.layer depth) ++ below.happenings,
        (l.evaluate ask r s).events ++ below.events⟩ := by
  rw [descend]
  simp only [Layer.verdict_of_proceeds h, Layer.state_evaluate]

/-- The outermost layer answers a request that it rejects. -/
theorem descend_of_rejects (h : l.Rejects ask r s x) (service : Service) (rest : List Layer)
    (depth : Nat) :
    descend ask service r depth s (l :: rest) =
      ⟨.ok x.response, l.left ask r s, (l.evaluate ask r s).actions.map (.layer depth),
        (l.evaluate ask r s).events ++ [.requestRejected x]⟩ := by
  rw [descend]
  simp only [Layer.verdict_of_rejects h, Layer.state_evaluate]

/-- The outermost layer is always reached. -/
theorem reaches_zero (s : σ) (layers : List Layer) : Reaches ask r s layers 0 :=
  fun _ _ h => absurd h (Nat.not_lt_zero _)

theorem reaches_cons_succ :
    Reaches ask r s (l :: rest) (depth + 1) ↔
      l.Proceeds ask r s ∧ Reaches ask r (l.left ask r s) rest depth := by
  constructor
  · intro h
    exact ⟨h 0 l (Nat.succ_pos _) rfl, fun outer layer hlt hget =>
      h (outer + 1) layer (Nat.succ_lt_succ hlt) hget⟩
  · rintro ⟨hfirst, hrest⟩ outer layer hlt hget
    cases outer with
    | zero =>
      cases hget
      exact hfirst
    | succ outer => exact hrest outer layer (Nat.lt_of_succ_lt_succ hlt) hget

/-- Nothing behind a layer that rejects the request is reached. -/
theorem not_reaches_of_rejects (hget : layers[depth]? = some l)
    (h : l.Rejects ask r (found ask r s layers depth) x) {deeper : Nat} (hdeeper : depth < deeper) :
    ¬ Reaches ask r s layers deeper :=
  fun hreaches => h.not_proceeds (hreaches depth l hdeeper hget)

/-! ## What happens -/

/-- What happens in a stack that begins at a depth: a layer acts if it is reached. -/
theorem layer_mem_descend {n : Nat} {a : Action} :
    .layer n a ∈ (descend ask service r depth s layers).happenings ↔
      ∃ d l, n = depth + d ∧ layers[d]? = some l ∧ Reaches ask r s layers d ∧
        l.Does ask r (found ask r s layers d) a := by
  -- The rest of a stack begins one deeper, and finds the stores as the outermost layer leaves them.
  induction layers generalizing depth s with
  | nil => simp [descend]
  | cons l rest ih =>
    have hhere : Happening.layer n a ∈ (l.evaluate ask r s).actions.map (.layer depth) ↔
        n = depth ∧ l.Does ask r s a := by
      rw [List.mem_map]
      constructor
      · rintro ⟨b, hb, hsame⟩
        cases hsame
        exact ⟨rfl, Layer.mem_actions_evaluate.1 hb⟩
      · rintro ⟨rfl, hdoes⟩
        exact ⟨a, Layer.mem_actions_evaluate.2 hdoes, rfl⟩
    rcases l.proceeds_or_rejects ask r s with hproceeds | ⟨x, hrejects⟩
    · rw [descend_of_proceeds hproceeds, List.mem_append, hhere, ih]
      constructor
      · rintro (⟨rfl, hdoes⟩ | ⟨d, layer, rfl, hget, hreaches, hdoes⟩)
        · exact ⟨0, l, rfl, rfl, reaches_zero s _, hdoes⟩
        · exact ⟨d + 1, layer, by omega, hget, reaches_cons_succ.2 ⟨hproceeds, hreaches⟩, hdoes⟩
      · rintro ⟨d, layer, rfl, hget, hreaches, hdoes⟩
        cases d with
        | zero =>
          cases hget
          exact .inl ⟨rfl, hdoes⟩
        | succ d =>
          exact .inr ⟨d, layer, by omega, hget, (reaches_cons_succ.1 hreaches).2, hdoes⟩
    · rw [descend_of_rejects hrejects, hhere]
      constructor
      · rintro ⟨rfl, hdoes⟩
        exact ⟨0, l, rfl, rfl, reaches_zero s _, hdoes⟩
      · rintro ⟨d, layer, rfl, hget, hreaches, hdoes⟩
        cases d with
        | zero =>
          cases hget
          exact ⟨rfl, hdoes⟩
        | succ d => exact absurd (reaches_cons_succ.1 hreaches).1 hrejects.not_proceeds

/-- The service is called if it is reached, with the request as it came. -/
theorem served_mem_descend {q : Request} :
    .served q ∈ (descend ask service r depth s layers).happenings ↔
      q = r ∧ Reaches ask r s layers layers.length := by
  induction layers generalizing depth s with
  | nil => simp [descend, reaches_zero]
  | cons l rest ih =>
    rcases l.proceeds_or_rejects ask r s with hproceeds | ⟨x, hrejects⟩
    · rw [descend_of_proceeds hproceeds, List.length_cons, reaches_cons_succ]
      simp [hproceeds, ih]
    · rw [descend_of_rejects hrejects, List.length_cons, reaches_cons_succ]
      simp [hrejects.not_proceeds]

/-- The layers act from the outermost inwards, and the service comes last. -/
theorem ordered_descend (ask : Nat → String → σ → Reply σ) (service : Service) (r : Request)
    (depth : Nat) (s : σ) (layers : List Layer) :
    (descend ask service r depth s layers).happenings.Pairwise Happening.Precedes := by
  induction layers generalizing depth s with
  | nil => exact List.pairwise_singleton _ _
  | cons l rest ih =>
    have hhere : ((l.evaluate ask r s).actions.map (.layer depth)).Pairwise Happening.Precedes :=
      List.pairwise_map.2 ((l.sorted_actions_evaluate ask r s).imp fun h => .inr ⟨rfl, h⟩)
    rcases l.proceeds_or_rejects ask r s with hproceeds | ⟨x, hrejects⟩
    · rw [descend_of_proceeds hproceeds]
      refine List.pairwise_append.2 ⟨hhere, ih (depth + 1) _, ?_⟩
      intro first hfirst later hlater
      obtain ⟨a, -, rfl⟩ := List.mem_map.1 hfirst
      cases later with
      | served q => exact trivial
      | layer n b =>
        obtain ⟨d, -, rfl, -⟩ := layer_mem_descend.1 hlater
        exact .inl (by omega)
    · rw [descend_of_rejects hrejects]
      exact hhere

/-! ## The answer -/

/-- The service answers if it is reached, and else the first layer that rejects the request. -/
theorem answer_descend (ask : Nat → String → σ → Reply σ) (service : Service) (r : Request)
    (depth : Nat) (s : σ) (layers : List Layer) :
    Reaches ask r s layers layers.length ∧
        (descend ask service r depth s layers).answer = service.call r ∨
      ∃ d l x, layers[d]? = some l ∧ Reaches ask r s layers d ∧
        l.Rejects ask r (found ask r s layers d) x ∧
        (descend ask service r depth s layers).answer = .ok x.response := by
  induction layers generalizing depth s with
  | nil => exact .inl ⟨reaches_zero s _, rfl⟩
  | cons l rest ih =>
    rcases l.proceeds_or_rejects ask r s with hproceeds | ⟨x, hrejects⟩
    · rw [descend_of_proceeds hproceeds]
      rcases ih (depth + 1) (l.left ask r s) with
        ⟨hreaches, hanswer⟩ | ⟨d, layer, x, hget, hreaches, hrejects, hanswer⟩
      · exact .inl ⟨reaches_cons_succ.2 ⟨hproceeds, hreaches⟩, hanswer⟩
      · exact .inr ⟨d + 1, layer, x, hget, reaches_cons_succ.2 ⟨hproceeds, hreaches⟩, hrejects,
          hanswer⟩
    · rw [descend_of_rejects hrejects]
      exact .inr ⟨0, l, x, rfl, reaches_zero s _, hrejects, rfl⟩

/-- The stores are left as the questions of the layers leave them. -/
theorem state_descend (ask : Nat → String → σ → Reply σ) (service : Service) (r : Request)
    (depth : Nat) (s : σ) (layers : List Layer) :
    (descend ask service r depth s layers).state =
      (descend ask service r depth s layers).happenings.foldl (Happening.affect ask) s := by
  induction layers generalizing depth s with
  | nil => rfl
  | cons l rest ih =>
    have hhere : ((l.evaluate ask r s).actions.map (.layer depth)).foldl (Happening.affect ask) s =
        l.left ask r s := by
      rw [List.foldl_map]
      exact l.foldl_actions_evaluate ask r s
    rcases l.proceeds_or_rejects ask r s with hproceeds | ⟨x, hrejects⟩
    · rw [descend_of_proceeds hproceeds, List.foldl_append, hhere]
      exact ih (depth + 1) _
    · rw [descend_of_rejects hrejects, hhere]

/-- **The protocol of a stack.**  A service that is not ready answers for its layers, which do
nothing; and one that is ready stands behind layers that keep the protocol.  That is so whatever
the layers and their hooks are, whether they share stores or not, whatever the stores say, and
whatever the service answers. -/
theorem call_protocol (layers : List Layer) (ask : Nat → String → σ → Reply σ)
    (service : Service) (r : Request) (s : σ) :
    match service.ready with
    | .error e => call layers ask service r s = ⟨.error e, s, [], []⟩
    | .ok () => Protocol layers ask service r s (call layers ask service r s) := by
  unfold call
  cases service.ready with
  | error e => rfl
  | ok =>
    refine ⟨ordered_descend ask service r 0 s layers, fun depth a => ?_,
      fun q => served_mem_descend, ?_, state_descend ask service r 0 s layers⟩
    · rw [layer_mem_descend]
      constructor
      · rintro ⟨d, l, rfl, hl⟩
        exact ⟨l, by rwa [Nat.zero_add]⟩
      · rintro ⟨l, hl⟩
        exact ⟨depth, l, (Nat.zero_add depth).symm, hl⟩
    · rcases answer_descend ask service r 0 s layers with
        hserved | ⟨d, l, x, hget, hreaches, hrejects, hanswer⟩
      · exact .inl hserved
      · exact .inr ⟨d, l, x, hget, hreaches, hrejects, hanswer,
          fun _ hdeeper => not_reaches_of_rejects hget hrejects hdeeper⟩

/-- Two layers share a store with a single token.  The outer one takes it, so that the inner one
denies the request, and the service is never called. -/
example (service : Service) (r : Request) (hready : service.ready = .ok ()) :
    let one : Layer := { Layer.ofStore 0 with extractor := fun _ => .ok "alice" }
    let ask : Nat → String → Nat → Reply Nat :=
      fun _ _ tokens => ⟨.ok (decide (0 < tokens)), tokens - 1, []⟩
    (call [one, one] ask service r 1).happenings =
      [.layer 0 .extracted, .layer 0 (.askedStore 0 "alice"), .layer 1 .extracted,
        .layer 1 (.askedStore 0 "alice"), .layer 1 (.denied "alice")] := by
  intro one ask
  rw [call, hready]
  rfl

end Stack
end Admission
