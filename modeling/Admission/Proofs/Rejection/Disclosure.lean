import Admission.Proofs.Json.Grammar
import Admission.Proofs.Layer.Protocol

/-!
# What a rejection discloses

The client learns the status and the message, to the letter; the log learns the detail as well.
So two errors of one kind look alike from outside, however much they differ, and the log tells
them apart.

* `Response.Tells` — a response says a message under a status, and nothing else;
* `Rejection.response_tells`, `Rejection.response_eq_iff` — what a rejection says, and when two
  rejections say the same;
* `AdmissionError.Alike` — errors of one kind;
* `Layer.WordsByDefault`, `Stack.Fails` — a request meets an error at a layer that was given no
  handler of its own;
* `Stack.rejections_disclose_their_message` — what becomes of all this in a whole stack.
-/

namespace Admission

/-- A response says a message under a status, and says nothing else: its body is an object with
that one member, and the reader of such objects gives back the message. -/
structure Response.Tells (p : Response) (status : Status) (message : String) : Prop where
  status : p.status = status
  headers : p.headers = [("content-type", "application/json")]
  body : ∀ v, Json.IsText p.body.toList v ↔
    v = .object [("message".toList, .string message.toList)]
  reads : Json.readSingleton? p.body.toList = some ("message".toList, message.toList)

/-- Errors of one kind: neither request has an identifier, or neither has a decision. -/
def AdmissionError.Alike : AdmissionError → AdmissionError → Prop
  | .identifier _, .identifier _ | .store _, .store _ => True
  | _, _ => False

/-- An event tells a rejection by a text that ends in the given detail. -/
def Event.Discloses (e : Event) (detail : String) : Prop :=
  ∃ text, e.fields = [⟨"rejection", .text text⟩] ∧ detail.toList <:+ text.toList

namespace Rejection

/-! ## One rejection -/

/-- A rejection says its message under its status. -/
theorem response_tells (x : Rejection) : x.response.Tells x.status x.message where
  status := rfl
  headers := rfl
  body _ := Json.isText_singleton_iff _ _
  reads := Json.readSingleton?_singleton _ _

/-- Rejections with different messages have different bodies. -/
theorem body_eq_iff {x y : Rejection} :
    x.response.body = y.response.body ↔ x.message = y.message := by
  constructor
  · intro hbody
    have hread := x.response_tells.reads
    rw [hbody, y.response_tells.reads] at hread
    have hmessage := congrArg Prod.snd (Option.some.inj hread)
    exact (String.toList_inj.1 hmessage).symm
  · intro hmessage
    rw [response, response, hmessage]

/-- The status and the message are all that a response depends on, and it depends on both. -/
theorem response_eq_iff {x y : Rejection} :
    x.response = y.response ↔ x.status = y.status ∧ x.message = y.message := by
  constructor
  · intro h
    exact ⟨congrArg Response.status h, body_eq_iff.1 (congrArg Response.body h)⟩
  · rintro ⟨hstatus, hmessage⟩
    rw [response, response, hstatus, hmessage]

/-- The log's text of a rejection ends in the detail. -/
theorem detail_suffix_describe {x : Rejection} {detail : String} (h : x.detail = some detail) :
    detail.toList <:+ x.describe.toList := by
  have hend : (", internal=" ++ detail).toList = ", internal=".toList ++ detail.toList :=
    String.toList_append
  rw [describe, h, String.toList_append]
  dsimp only
  rw [hend]
  exact (List.suffix_append _ _).trans (List.suffix_append _ _)

/-- The rejection of an error has the error's wording for its detail. -/
theorem detail_ofError (cause : AdmissionError) :
    (ofError cause).detail = some cause.message := by
  cases cause <;> rfl

/-- Errors are told apart by their kind, and by nothing else. -/
theorem response_ofError_eq_iff {a b : AdmissionError} :
    (ofError a).response = (ofError b).response ↔ a.Alike b := by
  rw [response_eq_iff]
  cases a <;> cases b <;> simp [ofError, forbidden, serviceUnavailable, AdmissionError.Alike]

end Rejection

namespace Layer

variable {σ : Type} {l : Layer} {ask : Nat → String → σ → Reply σ} {r : Request} {s : σ}

/-- A layer words errors as layers do by default. -/
def WordsByDefault (l : Layer) : Prop :=
  ∀ q e, l.onError q e = Rejection.ofError e

/-- A layer that was given no handler for errors words them by default. -/
theorem wordsByDefault_of_ofOptions {o : LayerOptions} (h : ofOptions o = .ok l)
    (hnone : o.onError = none) : l.WordsByDefault := by
  unfold ofOptions at h
  cases hstore : o.store with
  | none =>
    rw [hstore] at h
    cases h
  | some store =>
    rw [hstore] at h
    cases h
    intro q e
    simp only [hnone, Option.getD_none]
    rfl

/-- A layer that hands an error to its handler rejects the request with what the handler says. -/
theorem Does.rejects {cause : AdmissionError} (h : l.Does ask r s (.handledError cause)) :
    l.Rejects ask r s (l.onError r cause) := by
  cases h with
  | unidentified hskips hid => exact .unidentified hskips hid
  | undecided hcharge hanswer hpolicy => exact .undecided hcharge hanswer hpolicy

end Layer

namespace Stack

variable {σ : Type} {layers : List Layer} {ask : Nat → String → σ → Reply σ} {service : Service}
  {r : Request} {s : σ}

/-- A request meets an error in a stack: a layer that it reaches hands the error to its handler,
and words it by default. -/
def Fails (layers : List Layer) (ask : Nat → String → σ → Reply σ) (service : Service)
    (r : Request) (s : σ) (cause : AdmissionError) : Prop :=
  service.ready = .ok () ∧
    ∃ depth l, layers[depth]? = some l ∧ Reaches ask r s layers depth ∧
      l.Does ask r (found ask r s layers depth) (.handledError cause) ∧ l.WordsByDefault

/-! ## A stack -/

/-- The answer and the log of a stack with a layer that rejects the request. -/
theorem descend_of_reached {x : Rejection} {l : Layer} {d : Nat} (hget : layers[d]? = some l)
    (hreaches : Reaches ask r s layers d) (h : l.Rejects ask r (found ask r s layers d) x)
    (depth : Nat) :
    (descend ask service r depth s layers).answer = .ok x.response ∧
      .requestRejected x ∈ (descend ask service r depth s layers).events := by
  induction layers generalizing s d depth with
  | nil => cases hget
  | cons outermost rest ih =>
    cases d with
    | zero =>
      cases hget
      have hrejects : l.Rejects ask r s x := h
      rw [descend_of_rejects hrejects]
      exact ⟨rfl, List.mem_append_right _ List.mem_cons_self⟩
    | succ d =>
      obtain ⟨hproceeds, hrest⟩ := reaches_cons_succ.1 hreaches
      obtain ⟨hanswer, hevent⟩ := ih hget hrest h (depth + 1)
      rw [descend_of_proceeds hproceeds]
      exact ⟨hanswer, List.mem_append_right _ hevent⟩

/-- A request that meets an error is rejected with what is said of such errors by default. -/
theorem Fails.call {cause : AdmissionError} (h : Fails layers ask service r s cause) :
    (call layers ask service r s).answer = .ok (Rejection.ofError cause).response ∧
      .requestRejected (Rejection.ofError cause) ∈ (call layers ask service r s).events := by
  obtain ⟨hready, depth, l, hget, hreaches, hdoes, hdefault⟩ := h
  have hrejects := hdoes.rejects
  rw [hdefault r cause] at hrejects
  rw [Stack.call, hready]
  exact descend_of_reached hget hreaches hrejects 0

/-- **A rejection discloses its message and keeps its detail.**  Whatever the message, the response
has the rejection's status and one header, and its body reads as the message and as nothing else;
it depends on the status and the message only, and messages that differ are told apart.  So two
requests that meet errors of one kind get one answer, whatever the errors are and wherever in
whatever stacks they occur, while each stack's log tells the error's own words. -/
theorem rejections_disclose_their_message :
    (∀ x : Rejection, x.response.Tells x.status x.message) ∧
      (∀ x y : Rejection, x.response.body = y.response.body ↔ x.message = y.message) ∧
      (∀ x y : Rejection,
        x.response = y.response ↔ x.status = y.status ∧ x.message = y.message) ∧
      (∀ (x : Rejection) (detail : String), x.detail = some detail →
        detail.toList <:+ x.describe.toList) ∧
      (∀ {σ τ : Type} {layers layers' : List Layer} {ask : Nat → String → σ → Reply σ}
        {ask' : Nat → String → τ → Reply τ} {service service' : Service} {r r' : Request} {s : σ}
        {t : τ} {a b : AdmissionError}, Fails layers ask service r s a →
        Fails layers' ask' service' r' t b → a.Alike b →
        ∃ p, (call layers ask service r s).answer = .ok p ∧
          (call layers' ask' service' r' t).answer = .ok p) ∧
      ∀ {σ : Type} {layers : List Layer} {ask : Nat → String → σ → Reply σ} {service : Service}
        {r : Request} {s : σ} {cause : AdmissionError}, Fails layers ask service r s cause →
        ∃ e ∈ (call layers ask service r s).events, e.Discloses cause.message := by
  refine ⟨Rejection.response_tells, fun _ _ => Rejection.body_eq_iff,
    fun _ _ => Rejection.response_eq_iff, fun _ _ => Rejection.detail_suffix_describe, ?_, ?_⟩
  · intro σ τ layers layers' ask ask' service service' r r' s t a b ha hb hab
    refine ⟨(Rejection.ofError a).response, ha.call.1, ?_⟩
    rw [Rejection.response_ofError_eq_iff.2 hab]
    exact hb.call.1
  · intro σ layers ask service r s cause h
    refine ⟨_, h.call.2, _, rfl, ?_⟩
    exact Rejection.detail_suffix_describe (Rejection.detail_ofError cause)

/-- One stack finds no address, and another one no tenant, behind a layer that waives its lost store;
two more have a store that is lost, and one that is full.  There are two answers in all, and the
words of the lost store are in the log. -/
theorem rejections_disclose_their_message_of_lost_stores :
    let r : Request := ⟨"GET", ⟨none, "", "/", none⟩, [], none, none, false, ""⟩
    let service : Service := ⟨.ok (), fun _ => .error "unreachable"⟩
    let ask : Nat → String → Nat → Reply Nat := fun store _ asked =>
      ⟨.error (if store = 0 then .unavailable "lost" else .capacityExceeded 9), asked + 1, []⟩
    let known (store : Nat) : Layer :=
      { Layer.ofStore store with extractor := fun _ => .ok "alice" }
    let waiving : Layer := { known 0 with onStoreError := .failOpen }
    let tenant : Layer := { Layer.ofStore 0 with extractor := fun _ => .error (.other "no tenant") }
    let options : LayerOptions :=
      { LayerOptions.blank with store := some 0, extractor := some tenant.extractor }
    Layer.ofOptions options = .ok tenant ∧
      Fails [.ofStore 0] ask service r 0 (.identifier .missing) ∧
      Fails [waiving, tenant] ask service r 0 (.identifier (.other "no tenant")) ∧
      Fails [known 0] ask service r 0 (.store (.unavailable "lost")) ∧
      Fails [known 1] ask service r 0 (.store (.capacityExceeded 9)) ∧
      (∃ p, (call [.ofStore 0] ask service r 0).answer = .ok p ∧
        (call [waiving, tenant] ask service r 0).answer = .ok p) ∧
      (∃ p, (call [known 0] ask service r 0).answer = .ok p ∧
        (call [known 1] ask service r 0).answer = .ok p) ∧
      ∃ e ∈ (call [known 0] ask service r 0).events,
        e.Discloses "rate limiter backend unavailable: lost" := by
  intro r service ask known waiving tenant options
  obtain ⟨-, -, -, -, halike, hlogged⟩ := rejections_disclose_their_message
  have hbuilt : Layer.ofOptions options = .ok tenant := rfl
  have hfirst : Fails [.ofStore 0] ask service r 0 (.identifier .missing) :=
    ⟨rfl, 0, _, rfl, reaches_zero _ _, .unidentified rfl (by decide), fun _ _ => rfl⟩
  have hsecond : Fails [waiving, tenant] ask service r 0 (.identifier (.other "no tenant")) :=
    ⟨rfl, 1, _, rfl, reaches_cons_succ.2 ⟨.waived rfl rfl rfl, reaches_zero _ _⟩,
      .unidentified rfl rfl, Layer.wordsByDefault_of_ofOptions hbuilt rfl⟩
  have hthird : Fails [known 0] ask service r 0 (.store (.unavailable "lost")) :=
    ⟨rfl, 0, _, rfl, reaches_zero _ _, .undecided rfl rfl rfl, fun _ _ => rfl⟩
  have hfourth : Fails [known 1] ask service r 0 (.store (.capacityExceeded 9)) :=
    ⟨rfl, 0, _, rfl, reaches_zero _ _, .undecided rfl rfl rfl, fun _ _ => rfl⟩
  exact ⟨hbuilt, hfirst, hsecond, hthird, hfourth, halike hfirst hsecond trivial,
    halike hthird hfourth trivial, hlogged hthird⟩

end Stack
end Admission
