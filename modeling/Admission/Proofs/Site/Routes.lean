import Admission.Program
import Admission.Proofs.Site.Charges

/-!
# No route bypasses the layer

The layer stands before all routes, those that do not exist included.  A request is charged before
anybody knows whether its path has an answer and whether its method is one of those that read, so
that it costs the site the same wherever it goes.  A rejected request gets the rejection for an
answer; what is added to it, and left out of it, on the way to the client depends on the method
and the path alone.  So does all of the answer to a request that is let through.

* `Routes.known`, `Routes.outcome` — which paths have an answer, and the status of an answer;
* `Layer.atRoutes`, `Doors.routes` — the routes as a door of a site;
* `Routes.Guarded` — what the layer makes of a request at the routes;
* `Routes.no_route_bypasses` — it does so with every request, after any run of others;
* `Routes.rejected_head_loses_body` — a rejected request may be told less than the rejection says.
-/

namespace Admission

namespace Layer

/-- The layer before the routes, as a way to serve requests at a site. -/
def atRoutes (l : Layer) (s : Site) (_ : Unit) (r : Request) : Site × Evaluation Site × Response :=
  s.visit l r

end Layer

namespace Routes

/-- Whether a path has an answer. -/
def known (path : String) : Bool :=
  (body? path).isSome

theorem known_iff {path : String} : known path = true ↔ path = "/" ∨ path = healthPath := by
  unfold known body?
  split
  · simp [*]
  · split <;> simp [*]

/-- The status of the answer to a method and a path. -/
def outcome (method path : String) : Status :=
  if path = "/" ∨ path = healthPath then
    if method = "GET" ∨ method = "HEAD" then .ok else .methodNotAllowed
  else .notFound

/-- The answer to a method and a path has the status that they call for. -/
theorem status_respond (method path : String) :
    (respond method path).status = outcome method path := by
  show (handle method path).status = _
  unfold handle outcome
  cases hbody : body? path with
  | none =>
    have hunknown : known path = false := by rw [known, hbody]; rfl
    rw [if_neg (by rw [← known_iff, hunknown]; decide)]
  | some body =>
    have hknown : known path = true := by rw [known, hbody]; rfl
    rw [if_pos (known_iff.1 hknown)]
    by_cases hreads : method = "GET" ∨ method = "HEAD"
    · rw [if_pos hreads]
      simp [reads, hreads]
    · rw [if_neg hreads]
      simp [reads, hreads]

/-- What a client is told of a rejection: its status, its content type and its body, of which a
request for the head of a path with an answer gets the length only; and the methods of a path that
has an answer but not to this one. -/
structure Tells (method path : String) (x : Rejection) (response : Response) : Prop where
  status : response.status = x.status
  headers : response.headers =
    [("content-type", "application/json")] ++
      (if known path && !reads method then [("allow", "GET,HEAD")] else []) ++
      [("content-length", toString x.response.body.utf8ByteSize)]
  body : response.body = if known path && method == "HEAD" then "" else x.response.body

theorem tells_finish (method path : String) (x : Rejection) :
    Tells method path x (finish method path x.response) :=
  ⟨rfl, rfl, rfl⟩

variable {l : Layer} {s : Site} {r : Request}

/-! ## One request -/

/-- A request costs the site what the layer makes of it. -/
theorem visit_site (s : Site) (l : Layer) (r : Request) :
    (s.visit l r).1 = l.left Site.ask r s := by
  rw [← Layer.state_evaluate]
  unfold Site.visit call
  cases hverdict : (l.evaluate Site.ask r s).verdict <;> simp only [hverdict]

theorem visit_actions (s : Site) (l : Layer) (r : Request) :
    (s.visit l r).2.1.actions = (l.evaluate Site.ask r s).actions := by
  unfold Site.visit call
  cases hverdict : (l.evaluate Site.ask r s).verdict <;> simp only [hverdict]

/-- A request that the layer lets go on gets the answer to its method and its path. -/
theorem visit_of_proceeds (h : l.Proceeds Site.ask r s) :
    (s.visit l r).2.2 = respond r.method r.target.path := by
  unfold Site.visit call
  simp only [Layer.verdict_of_proceeds h]

/-- A request that the layer rejects gets the rejection. -/
theorem visit_of_rejects {x : Rejection} (h : l.Rejects Site.ask r s x) :
    (s.visit l r).2.2 = finish r.method r.target.path x.response := by
  unfold Site.visit call
  simp only [Layer.verdict_of_rejects h]

/-- What the layer before the routes makes of a request: nothing in it depends on where the request
goes, but for the answer of the routes and for what is left out of a rejection. -/
structure Guarded (l : Layer) (s : Site) (r : Request) : Prop where
  /-- The layer looks at a request once, unless it skips it. -/
  looks : l.skips r = false → (s.visit l r).2.1.actions.count .extracted = 1
  /-- It asks its store once for the identifier of the request, and asks nothing else. -/
  asks : ∀ store id, (s.visit l r).2.1.actions.count (.askedStore store id) =
    if store = l.store ∧ l.charge? r = some id then 1 else 0
  /-- That is all that the request costs. -/
  charges : (s.visit l r).1 = (l.charge? r).elim s fun id => (s.ask l.store id).state
  /-- Any other request with the identifier would cost the same, and would be let go on if this
  one is. -/
  alike : ∀ q, l.skips q = l.skips r → l.extractor q = l.extractor r →
    (s.visit l q).1 = (s.visit l r).1 ∧ (l.Proceeds Site.ask q s ↔ l.Proceeds Site.ask r s)
  /-- The request is let go on, and gets the answer to its method and its path; or it is rejected,
  and is told so. -/
  answers :
    l.Proceeds Site.ask r s ∧ (s.visit l r).2.2 = respond r.method r.target.path ∧
        (s.visit l r).2.2.status = outcome r.method r.target.path ∨
      ∃ x, l.Rejects Site.ask r s x ∧ Tells r.method r.target.path x (s.visit l r).2.2
  /-- If the layer skips those who ask for the program's health, then it skips everybody who comes
  to that path, and nobody else. -/
  spares : l.skipper = some Program.asksHealth →
    (l.skips r = true ↔ r.target.path = healthPath) ∧
      (r.target.path = healthPath → l.charge? r = none ∧ l.Proceeds Site.ask r s)

theorem charges_visit (s : Site) (l : Layer) (r : Request) :
    (s.visit l r).1 = (l.charge? r).elim s fun id => (s.ask l.store id).state := by
  rw [visit_site, Site.left_eq_charged, Site.charged_map]

/-- The layer skips whoever comes to the path of the program's health, and nobody else. -/
theorem skips_iff_of_asksHealth (h : l.skipper = some Program.asksHealth) :
    l.skips r = true ↔ r.target.path = healthPath := by
  rw [Layer.skips, h]
  exact beq_iff_eq

theorem guarded (l : Layer) (s : Site) (r : Request) : Guarded l s r where
  looks hskips := by
    rw [visit_actions]
    exact Layer.count_extracted hskips
  asks store id := by
    rw [visit_actions]
    exact l.count_askedStore Site.ask r s store id
  charges := charges_visit s l r
  alike q hskips hid := by
    refine ⟨?_, fun h => h.congr hskips hid, fun h => h.congr hskips.symm hid.symm⟩
    rw [charges_visit, charges_visit, Layer.charge?_congr hskips hid]
  answers := by
    rcases l.proceeds_or_rejects Site.ask r s with hproceeds | ⟨x, hrejects⟩
    · rw [visit_of_proceeds hproceeds]
      exact .inl ⟨hproceeds, rfl, status_respond _ _⟩
    · rw [visit_of_rejects hrejects]
      exact .inr ⟨x, hrejects, tells_finish _ _ _⟩
  spares hskipper := by
    have hiff := skips_iff_of_asksHealth (r := r) hskipper
    refine ⟨hiff, fun hpath => ?_⟩
    have hskips := hiff.2 hpath
    exact ⟨Layer.charge?_eq_none_iff.2 (.inl hskips), .skipped hskips⟩

end Routes

/-! ## Any number of requests -/

/-- The routes cost a site the identifiers that the layer before them finds. -/
def Doors.routes (l : Layer) : Doors Unit (Evaluation Site × Response) where
  serve := l.atRoutes
  charge? _ r := (l.charge? r).map fun id => ⟨l.store, id⟩
  cost := by
    intro s _ r
    rw [Site.charged_map]
    exact Routes.charges_visit s l r

namespace Routes

/-- **No route bypasses the layer.**  A run of requests leaves the site as any other run does in
which the requests go elsewhere, by other methods, but are charged to the same identifiers.  After
any run, the layer guards the routes against the next request, wherever that goes. -/
theorem no_route_bypasses (l : Layer) (s : Site) (errands : List (Errand Unit)) :
    (∀ change : Request → Request, (∀ q, l.charge? (change q) = l.charge? q) →
      (s.run l.atRoutes (errands.map (Errand.withRequest change))).1 =
        (s.run l.atRoutes errands).1) ∧
    ∀ r, Guarded l (s.run l.atRoutes errands).1 r := by
  refine ⟨fun change hchange => ?_, fun r => guarded l _ r⟩
  exact (Doors.routes l).run_withRequest (fun _ q => congrArg (Option.map _) (hchange q)) s errands

/-- Somebody who has one token spends it on a path that does not exist, by a method that does not
read.  That leaves the site as a reading of the first path does, and the next request is rejected,
though its path does not exist either. -/
theorem no_route_bypasses_to_nowhere :
    let l : Layer := { Layer.ofStore 0 with extractor := fun _ => .ok "alice" }
    let s := Site.opening .epoch [.memory (.empty .oneASecond)]
    let astray : Request := ⟨"DELETE", ⟨none, "", "/nowhere", none⟩, [], none, none, false, ""⟩
    let toRoot := fun r : Request => { r with method := "GET", target := ⟨none, "", "/", none⟩ }
    let errands : List (Errand Unit) := [.request () astray]
    let after := (s.run l.atRoutes errands).1
    (∀ q, l.charge? (toRoot q) = l.charge? q) ∧
      (s.run l.atRoutes (errands.map (Errand.withRequest toRoot))).1 = after ∧
      Guarded l after astray ∧ (after.visit l astray).2.2.status = .tooManyRequests := by
  intro l s astray toRoot errands after
  have hsame : ∀ q, l.charge? (toRoot q) = l.charge? q := fun _ => rfl
  obtain ⟨hruns, hguarded⟩ := no_route_bypasses l s errands
  exact ⟨hsame, hruns toRoot hsame, hguarded astray, by decide +kernel⟩

/-- **A rejected request may be told less than the rejection says.**  A store denies everybody.  Who
asks for the head of the first path is told the status of the rejection but not its body, which
whoever reads the path is told; and who comes by another method is told the methods as well. -/
theorem rejected_head_loses_body :
    let l : Layer := { Layer.ofStore 0 with extractor := fun _ => .ok "alice" }
    let s := Site.opening .epoch [.fixed (.ok false)]
    let request := fun method : String =>
      (⟨method, ⟨none, "", "/", none⟩, [], none, none, false, ""⟩ : Request)
    let told := fun method : String => (s.visit l (request method)).2.2
    (∀ method, l.Rejects Site.ask (request method) s .tooManyRequests) ∧
      (told "HEAD").status = Rejection.tooManyRequests.status ∧
      (told "HEAD").body ≠ Rejection.tooManyRequests.response.body ∧
      (told "GET").body = Rejection.tooManyRequests.response.body ∧
      (told "POST").headers ≠ (told "GET").headers := by
  intro l s request told
  have hcharge : ∀ method, l.charge? (request method) = some "alice" := fun _ => rfl
  exact ⟨fun method => .denied (hcharge method) rfl, by decide +kernel, by decide +kernel,
    by decide +kernel, by decide +kernel⟩

end Routes
end Admission
