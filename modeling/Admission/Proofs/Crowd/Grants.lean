import Admission.Proofs.Crowd.Linearization
import Admission.Proofs.Crowd.Passes
import Mathlib.Algebra.Order.Floor.Semiring
import Mathlib.Data.Rat.Floor

/-!
# What callers are granted at one instant

While the clock stands still a bucket gains nothing, and what a call takes off is taken off
exactly.  So it does not matter which of the calls that read the same instant is served first, nor
which of them creates the visitor: together they are granted as many requests as there are whole
tokens, and leave the rest of what was there.

* `Store.tokensOf` — the tokens that an identifier has at an instant, tracked or not;
* `one_le_remaining_iff`, `remaining_succ` — the tokens left after so many calls, in exact numbers;
* `Granted`, `Granted.perform` — what every operation keeps that leaves the identifier alone, or
  serves it at the instant;
* `StandsStill.step` — every move but a few is made of such operations;
* `decidedOn_run` — a call that was begun has been decided, or somebody is still at work on it;
* `granted_at_one_instant` — what it means for calls that overlap.
-/

namespace Admission

open Binary64

/-! ## Whole tokens -/

/-- What is left of some tokens after so many calls at one instant, each of which takes a whole
token if there is one. -/
def remaining (tokens : ℚ) (calls : ℕ) : ℚ :=
  tokens - (min calls ⌊tokens⌋₊ : ℕ)

/-- A whole token is left while there have been fewer calls than whole tokens. -/
theorem one_le_remaining_iff {tokens : ℚ} (h : 0 ≤ tokens) (calls : ℕ) :
    1 ≤ remaining tokens calls ↔ calls < ⌊tokens⌋₊ := by
  have hfloor := Nat.floor_le h
  have hnext := Nat.lt_floor_add_one tokens
  unfold remaining
  constructor
  · intro hone
    by_contra hmany
    rw [min_eq_right (not_lt.1 hmany)] at hone
    linarith
  · intro hfew
    have hcast : (calls : ℚ) + 1 ≤ ⌊tokens⌋₊ := by exact_mod_cast hfew
    rw [min_eq_left hfew.le]
    linarith

/-- One call more. -/
theorem remaining_succ {tokens : ℚ} (h : 0 ≤ tokens) (calls : ℕ) :
    (if 1 ≤ remaining tokens calls then remaining tokens calls - 1 else remaining tokens calls) =
      remaining tokens (calls + 1) := by
  by_cases hone : 1 ≤ remaining tokens calls
  · have hfew := (one_le_remaining_iff h calls).1 hone
    rw [if_pos hone, remaining, remaining, min_eq_left hfew.le, min_eq_left hfew]
    push_cast
    ring
  · have hmany := mt (one_le_remaining_iff h calls).2 hone
    rw [if_neg hone, remaining, remaining, min_eq_right (not_lt.1 hmany),
      min_eq_right (Nat.le_succ_of_le (not_lt.1 hmany))]

/-! ## The tokens of an identifier -/

namespace Store

/-- The tokens that an identifier has at an instant: those of its visitor, or the burst while it
has none. -/
def tokensOf (s : Store) (id : String) (now : Instant) : Binary64 :=
  match s.visitor? id with
  | some v => v.bucket.tokensAt now
  | none => s.limits.allowance.capacity

variable {s : Store} {id : String} {now : Instant}

/-- They are the tokens of whoever would serve it. -/
theorem tokensOf_eq (s : Store) (id : String) (now : Instant) :
    s.tokensOf id now =
      ((s.visitor? id).getD (.arriving s.limits.allowance now)).bucket.tokensAt now := by
  unfold tokensOf
  cases s.visitor? id with
  | none => exact (Bucket.full_tokensAt s.limits.allowance now now).symm
  | some v => rfl

theorem Sound.hasMagnitude_tokensOf (h : s.Sound) (id : String) (now : Instant) :
    (s.tokensOf id now).HasMagnitude (s.tokensOf id now).toRat := by
  obtain ⟨-, -, t, hholds⟩ := h.getD_arriving id now
  have hcount := hholds.tokensAt now
  rw [← tokensOf_eq] at hcount
  exact hcount.toRat_eq.symm ▸ hcount

/-- **To be served is to take a whole token**, if there is one. -/
theorem Sound.served_of_tokensOf (h : s.Sound) {tokens : ℚ}
    (htokens : (s.tokensOf id now).HasMagnitude tokens) :
    (s.served id now).1 = decide (1 ≤ tokens) ∧
      (s.served id now).2.bucket.Holds (if 1 ≤ tokens then tokens - 1 else tokens) := by
  obtain ⟨-, -, t, hholds⟩ := h.getD_arriving id now
  have hcount := hholds.tokensAt now
  rw [← tokensOf_eq] at hcount
  obtain ⟨hgranted, hleft⟩ := hholds.allow now
  rw [hcount.unique htokens] at hgranted hleft
  exact ⟨by rw [Bool.eq_iff_iff, decide_eq_true_iff]; exact hgranted, hleft⟩

theorem tokensOf_congr {t : Store} (hlimits : s.limits = t.limits)
    (hvisitor : s.visitor? id = t.visitor? id) (now : Instant) :
    s.tokensOf id now = t.tokensOf id now := by
  rw [tokensOf, tokensOf, hvisitor, hlimits]

/-- Whoever was just served has the tokens that it was left with. -/
theorem tokensOf_of_served {t : Store} {left : ℚ}
    (hvisitor : t.visitor? id = some (s.served id now).2)
    (hleft : (s.served id now).2.bucket.Holds left) :
    (t.tokensOf id now).HasMagnitude left := by
  have hupdate : (s.served id now).2.bucket.lastUpdate = now :=
    Bucket.allow_lastUpdate _ now
  have hcount := hleft.tokensAt_lastUpdate
  rw [hupdate] at hcount
  rw [tokensOf, hvisitor]
  exact hcount

end Store

namespace Crowd

/-! ## Calls that are decided -/

/-- Whether a call was granted. -/
def Decided.isGranted (o : Decided) : Bool :=
  match o.answer with
  | .ok true => true
  | _ => false

/-- The calls on an identifier. -/
def decidedOn (id : String) (decided : List Decided) : List Decided :=
  decided.filter fun o => o.call.id = id

/-- How many of them were granted. -/
def grantedOn (id : String) (decided : List Decided) : ℕ :=
  (decidedOn id decided).countP Decided.isGranted

theorem decidedOn_cons_self {id : String} {o : Decided} (h : o.call.id = id)
    (decided : List Decided) : decidedOn id (o :: decided) = o :: decidedOn id decided :=
  List.filter_cons_of_pos (by simp [h])

theorem decidedOn_cons_other {id : String} {o : Decided} (h : o.call.id ≠ id)
    (decided : List Decided) : decidedOn id (o :: decided) = decidedOn id decided :=
  List.filter_cons_of_neg (by simp [h])

/-! ## One operation -/

/-- The operation leaves an identifier alone, or is a call on it that has read an instant. -/
def Operation.Spares (id : String) (now : Instant) : Operation → Prop
  | .allow _ call => call.id = id → call.reading = now
  | .visit other _ | .forget other => other ≠ id
  | .clear => False

/-- What is known of a store after some calls, the last one first, if the calls on an identifier
have all read the same instant, at which the identifier had so many tokens. -/
structure Granted (id : String) (now : Instant) (tokens : ℚ) (store : Store)
    (decided : List Decided) : Prop where
  uncapped : store.Uncapped
  sound : store.Sound
  left : (store.tokensOf id now).HasMagnitude (remaining tokens (decidedOn id decided).length)
  visitor : decidedOn id decided ≠ [] → ∃ v, store.visitor? id = some v ∧
    v.bucket.tokens.HasMagnitude (remaining tokens (decidedOn id decided).length)
  answered : ∀ o ∈ decidedOn id decided, ∃ allowed, o.answer = .ok allowed
  granted : grantedOn id decided = min (decidedOn id decided).length ⌊tokens⌋₊

namespace Granted

variable {id : String} {now : Instant} {tokens : ℚ} {s t : Store} {decided : List Decided}
  {l : Ledger} {operation : Operation}

/-- What leaves the visitor alone keeps it. -/
theorem of_visitor (h : Granted id now tokens s decided) (hlimits : t.limits = s.limits)
    (hsound : t.Sound) (hvisitor : t.visitor? id = s.visitor? id) {later : List Decided}
    (hsame : decidedOn id later = decidedOn id decided) : Granted id now tokens t later where
  uncapped := h.uncapped.congr hlimits.symm
  sound := hsound
  left := by
    rw [Store.tokensOf_congr hlimits hvisitor, hsame]
    exact h.left
  visitor := by
    rw [hvisitor, hsame]
    exact h.visitor
  answered := by
    rw [hsame]
    exact h.answered
  granted := by
    rw [grantedOn, hsame]
    exact h.granted

/-- A call on the identifier takes a whole token if there is one. -/
theorem allow (h : Granted id now tokens s decided) (hnonneg : 0 ≤ tokens) (caller : Nat) :
    Granted id now tokens (s.allow id now).state
      (⟨caller, ⟨id, now⟩, (s.allow id now).answer, (s.allow id now).events⟩ :: decided) := by
  have hserved := h.uncapped.refused_eq_none id
  obtain ⟨hanswer, hleft⟩ := h.sound.served_of_tokensOf h.left
  have hstate := Store.visitor?_allow_self hserved now
  have hdecided : decidedOn id
      (⟨caller, ⟨id, now⟩, (s.allow id now).answer, (s.allow id now).events⟩ :: decided) =
        _ :: decidedOn id decided := decidedOn_cons_self rfl decided
  rw [remaining_succ hnonneg] at hleft
  rw [(Store.allow_of_served hserved now).1] at hdecided ⊢
  refine ⟨?_, h.sound.allow id now, ?_, ?_, ?_, ?_⟩
  · exact h.uncapped.congr (Store.allow_limits s id now).symm
  · rw [hdecided, List.length_cons]
    exact Store.tokensOf_of_served hstate hleft
  · intro _
    rw [hdecided, List.length_cons]
    exact ⟨_, hstate, hleft.1⟩
  · intro o ho
    rw [hdecided, List.mem_cons] at ho
    rcases ho with rfl | hearlier
    · exact ⟨_, rfl⟩
    · exact h.answered o hearlier
  · -- It is granted as long as fewer calls were decided than there were whole tokens.
    have hgranted := h.granted
    rw [grantedOn] at hgranted ⊢
    rw [hdecided, List.length_cons, List.countP_cons, hgranted, hanswer]
    by_cases hfew : (decidedOn id decided).length < ⌊tokens⌋₊
    · rw [decide_eq_true ((one_le_remaining_iff hnonneg _).2 hfew)]
      simp only [Decided.isGranted, if_true]
      omega
    · rw [decide_eq_false (mt (one_le_remaining_iff hnonneg _).1 hfew)]
      simp only [Decided.isGranted, Bool.false_eq_true, if_false]
      omega

/-- **Every operation that spares the identifier keeps it.**  Of the calls that were decided, those
since some earlier ones are counted. -/
theorem perform {fresh earlier : List Decided} (h : Granted id now tokens l.store fresh)
    (hdecided : l.decided = fresh ++ earlier) (hnonneg : 0 ≤ tokens)
    (hspares : operation.Spares id now) :
    ∃ later, (l.perform operation).decided = later ++ earlier ∧
      Granted id now tokens (l.perform operation).store later := by
  cases operation with
  | allow caller call =>
    obtain ⟨name, reading⟩ := call
    refine ⟨_ :: fresh, congrArg _ hdecided, ?_⟩
    by_cases hid : name = id
    · subst hid
      obtain rfl : reading = now := hspares rfl
      exact h.allow hnonneg caller
    · exact h.of_visitor (Store.allow_limits _ _ _) (h.sound.allow _ _)
        (Store.visitor?_allow_other _ (Ne.symm hid) _) (decidedOn_cons_other hid fresh)
  | visit other reading =>
    exact ⟨fresh, hdecided, h.of_visitor (Store.visit_limits _ _ _) (h.sound.visit _ _)
      (Store.visitor?_visit_other _ (Ne.symm hspares) _) rfl⟩
  | forget other =>
    exact ⟨fresh, hdecided, h.of_visitor (t := l.store.forget other) rfl (h.sound.forget other)
      (Store.visitor?_forget_other _ (Ne.symm hspares)) rfl⟩
  | clear => exact hspares.elim

/-- **So do all of them.** -/
theorem replay {fresh earlier : List Decided} (h : Granted id now tokens l.store fresh)
    (hdecided : l.decided = fresh ++ earlier) (hnonneg : 0 ≤ tokens)
    {operations : List Operation} (hspares : ∀ operation ∈ operations, operation.Spares id now) :
    ∃ later, (l.replay operations).decided = later ++ earlier ∧
      Granted id now tokens (l.replay operations).store later := by
  induction operations generalizing l fresh with
  | nil => exact ⟨fresh, hdecided, h⟩
  | cons operation rest ih =>
    obtain ⟨later, hlater, hnext⟩ :=
      h.perform hdecided hnonneg (hspares operation List.mem_cons_self)
    exact ih hnext hlater fun o ho => hspares o (List.mem_cons_of_mem operation ho)

end Granted

theorem granted_nil {s : Store} (huncapped : s.Uncapped) (hsound : s.Sound) (id : String)
    (now : Instant) : Granted id now (s.tokensOf id now).toRat s [] where
  uncapped := huncapped
  sound := hsound
  left := by
    have hnone : remaining (s.tokensOf id now).toRat (decidedOn id []).length =
        (s.tokensOf id now).toRat := by
      simp [remaining, decidedOn]
    rw [hnone]
    exact hsound.hasMagnitude_tokensOf id now
  visitor := fun hsome => absurd rfl hsome
  answered := by simp [decidedOn]
  granted := by simp [grantedOn, decidedOn]

/-! ## Moves while the clock stands still -/

/-- The move leaves the clock alone, and does not come to an identifier but to serve it. -/
def Move.spares (id : String) : Move → Bool
  | .setClock _ | .clear => false
  | .visit _ other | .forget other => other != id
  | .call _ _ | .proceed _ | .startPass => true

/-- The clock shows an instant, and whoever is at work on an identifier has read it there. -/
structure StandsStill (id : String) (now : Instant) (c : Crowd) : Prop where
  clock : c.clock = now
  reads : ∀ caller call, c.AtWork caller call → call.id = id → call.reading = now

variable {c : Crowd} {id : String} {now : Instant} {move : Move}

@[simp] theorem clock_proceed (c : Crowd) (caller : Nat) : (c.proceed caller).clock = c.clock := by
  have hsection := section_proceed c caller
  generalize c.proceed caller = d at hsection
  cases hsection <;> rfl

/-- **The clock goes on standing still**, and a call that is begun reads it. -/
theorem StandsStill.step (h : StandsStill id now c) (hspares : move.spares id = true) :
    StandsStill id now (c.step move) where
  clock := by
    rw [← h.clock]
    cases move with
    | setClock _ | clear => cases hspares
    | forget _ | startPass => rfl
    | call caller name =>
      simp only [Crowd.step]
      split <;> rfl
    | proceed caller => exact clock_proceed c caller
    | visit pass name =>
      simp only [Crowd.step]
      split <;> rfl
  reads := by
    intro caller call hwork hid
    rcases atWork_of_step hwork with hold | hread
    · exact h.reads caller call hold hid
    · exact hread.trans h.clock

/-- **What a move amounts to spares the identifier** where the move does. -/
theorem StandsStill.spares_operation (h : StandsStill id now c) (hspares : move.spares id = true)
    {operation : Operation} (hoperation : operation ∈ c.operation? move) :
    operation.Spares id now := by
  cases move with
  | setClock _ | clear => cases hspares
  | call _ _ | startPass => cases hoperation
  | forget other =>
    obtain rfl := Option.some.inj hoperation
    exact bne_iff_ne.1 hspares
  | visit pass other =>
    obtain ⟨reading, -, rfl⟩ := Option.map_eq_some_iff.1 hoperation
    exact bne_iff_ne.1 hspares
  | proceed caller =>
    have hreads : ∀ call, c.AtWork caller call →
        operation = .allow caller call → operation.Spares id now := by
      rintro call hwork rfl
      exact h.reads caller call hwork
    simp only [operation?] at hoperation
    split at hoperation
    · next call hstage =>
      split at hoperation
      · exact hreads call (by rw [AtWork, hstage]; rfl) (Option.some.inj hoperation).symm
      · cases hoperation
    · next call hstage =>
      exact hreads call (by rw [AtWork, hstage]; rfl) (Option.some.inj hoperation).symm
    · cases hoperation

/-- **So does all that moves amount to.** -/
theorem StandsStill.spares_history (h : StandsStill id now c) {moves : List Move}
    (hspares : ∀ move ∈ moves, move.spares id = true) :
    ∀ operation ∈ c.history moves, operation.Spares id now := by
  induction moves generalizing c with
  | nil =>
    intro operation hoperation
    cases hoperation
  | cons move rest ih =>
    have hmove := hspares move List.mem_cons_self
    intro operation hoperation
    rw [history, List.mem_append, Option.mem_toList] at hoperation
    rcases hoperation with hfirst | hlater
    · exact h.spares_operation hmove hfirst
    · exact ih (h.step hmove) (fun m hm => hspares m (List.mem_cons_of_mem move hm)) operation
        hlater

/-! ## Calls that are begun -/

/-- Whether a caller is at work on an identifier. -/
def Stage.isOn (id : String) (stage : Stage) : Bool :=
  stage.call?.any fun call => call.id = id

/-- How many callers are at work on an identifier. -/
def workingOn (c : Crowd) (id : String) : ℕ :=
  c.callers.countP (Stage.isOn id)

/-- Whether a move begins a call on an identifier. -/
def begins (c : Crowd) (id : String) : Move → Bool
  | .call caller name => decide (c.callers[caller]? = some .idle ∧ name = id)
  | _ => false

/-- How many calls on an identifier are begun in the course of moves. -/
def begun (c : Crowd) (id : String) : List Move → ℕ
  | [] => 0
  | move :: rest => (c.begins id move).toNat + (c.step move).begun id rest

/-- A call that is settled is decided, and its caller is not at work on it any more. -/
theorem decidedOn_settle {caller : Nat} {stage : Stage} {call : Call} (id : String)
    (hstage : c.callers[caller]? = some stage) (hcall : stage.call? = some call)
    (reply : Reply Store) :
    (decidedOn id (c.settle caller call reply).decided).length +
        (c.settle caller call reply).workingOn id =
      (decidedOn id c.decided).length + c.workingOn id := by
  have hworking : (c.settle caller call reply).workingOn id + (stage.isOn id).toNat =
      c.workingOn id := countP_become (Stage.isOn id) hstage .idle
  have hdecided : (decidedOn id (c.settle caller call reply).decided).length =
      (decidedOn id c.decided).length + (stage.isOn id).toNat := by
    have hcons : (c.settle caller call reply).decided =
        ⟨caller, call, reply.answer, reply.events⟩ :: c.decided := rfl
    rw [Stage.isOn, hcall, Option.any_some, hcons]
    by_cases hid : call.id = id
    · rw [decidedOn_cons_self hid, decide_eq_true hid, List.length_cons, Bool.toNat_true]
    · rw [decidedOn_cons_other hid, decide_eq_false hid, Bool.toNat_false, Nat.add_zero]
  omega

/-- A section that leaves a caller at work on its call changes no count. -/
theorem workingOn_become {caller : Nat} {stage next : Stage} (id : String)
    (hstage : c.callers[caller]? = some stage) (hcall : next.call? = stage.call?) :
    (c.become caller next).workingOn id = c.workingOn id := by
  have hcount := countP_become (Stage.isOn id) hstage next
  rw [Stage.isOn, Stage.isOn, hcall] at hcount
  exact Nat.add_right_cancel hcount

/-- **A call that is begun is worked on, until it is decided.** -/
theorem decidedOn_step (c : Crowd) (id : String) (move : Move) :
    (decidedOn id (c.step move).decided).length + (c.step move).workingOn id =
      (decidedOn id c.decided).length + c.workingOn id + (c.begins id move).toNat := by
  cases move with
  | setClock _ | startPass | forget _ | clear => rfl
  | visit pass name =>
    simp only [step]
    split <;> rfl
  | call caller name =>
    simp only [step, begins]
    split
    · next hidle =>
      have hcount := countP_become (Stage.isOn id) hidle (.looking ⟨name, c.clock⟩)
      have hlooking : Stage.isOn id (.looking ⟨name, c.clock⟩) = decide (name = id) := rfl
      have hnobody : Stage.isOn id .idle = false := rfl
      rw [hlooking, hnobody] at hcount
      rw [hidle]
      simp only [true_and, workingOn]
      simp only [become, Bool.toNat_false] at hcount ⊢
      omega
    · next hbusy =>
      have hfalse : decide (c.callers[caller]? = some .idle ∧ name = id) = false :=
        decide_eq_false fun hidle => hbusy hidle.1
      rw [hfalse]
      rfl
  | proceed caller =>
    have hsection := section_proceed c caller
    rw [step_proceed]
    generalize c.proceed caller = d at hsection
    cases hsection with
    | charged stage | refused stage | entered stage => exact decidedOn_settle id stage rfl _
    | missed stage | passed stage =>
      exact congrArg _ (workingOn_become id stage rfl)
    | absent => rfl

/-- **Of the calls that were begun, all are decided but those that somebody is at work on.** -/
theorem decidedOn_run (c : Crowd) (id : String) (moves : List Move) :
    (decidedOn id (c.run moves).decided).length + (c.run moves).workingOn id =
      (decidedOn id c.decided).length + c.workingOn id + c.begun id moves := by
  induction moves generalizing c with
  | nil => rfl
  | cons move rest ih =>
    have hfirst := decidedOn_step c id move
    have hrest := ih (c.step move)
    show (decidedOn id ((c.step move).run rest).decided).length +
      ((c.step move).run rest).workingOn id = _
    rw [begun]
    omega

/-- Nobody is at work on an identifier that nobody is counted for. -/
theorem not_atWork_of_workingOn (h : c.workingOn id = 0) {caller : Nat} {call : Call}
    (hwork : c.AtWork caller call) : call.id ≠ id := by
  obtain ⟨stage, hstage, hcall⟩ := Option.bind_eq_some_iff.1 hwork
  have hnot := List.countP_eq_zero.1 h stage (List.mem_of_getElem? hstage)
  rw [Stage.isOn, hcall, Option.any_some] at hnot
  exact of_decide_eq_false (Bool.eq_false_iff.2 hnot)

/-- **What is granted at one instant.**  On a store without a cap that callers have brought about
in whatever way, nobody is at work on an identifier.  Then calls on it are begun while the clock
stands still, and their sections alternate in any way with each other, with calls on other
identifiers, and with what else leaves the identifier alone.  Whichever of them are decided, they
are answered, and they are granted as many requests as there are whole tokens, of those that the
identifier had at the instant; its visitor keeps the rest, to the last bit. -/
theorem granted_at_one_instant {limits : Limits} (huncapped : limits.maxVisitors = none)
    (start : Instant) (callers : Nat) (earlier : List Move) (id : String) {moves : List Move}
    (hquiet : ((opening limits start callers).run earlier).workingOn id = 0)
    (hspares : ∀ move ∈ moves, move.spares id = true) :
    let before := (opening limits start callers).run earlier
    let after := before.run moves
    let tokens := (before.store.tokensOf id before.clock).toRat
    ∃ fresh, after.decided = fresh ++ before.decided ∧
      before.begun id moves = (decidedOn id fresh).length + after.workingOn id ∧
      (∀ o ∈ decidedOn id fresh, ∃ allowed, o.answer = .ok allowed) ∧
      grantedOn id fresh = min (decidedOn id fresh).length ⌊tokens⌋₊ ∧
      (decidedOn id fresh ≠ [] → ∃ v, after.store.visitor? id = some v ∧
        v.bucket.tokens.HasMagnitude (tokens - grantedOn id fresh)) := by
  intro before after tokens
  have hlimits : before.store.limits = limits := run_limits _ earlier
  have huncapped' : before.store.Uncapped := by rw [Store.Uncapped, hlimits, huncapped]
  have hsound : before.store.Sound := sound_run (Store.sound_empty limits) earlier
  have hnonneg : 0 ≤ tokens := (hsound.hasMagnitude_tokensOf id before.clock).nonneg
  -- Nobody was at work on the identifier, so nobody has read another time for it.
  have hstill : StandsStill id before.clock before :=
    ⟨rfl, fun caller call hwork hid => absurd hid (not_atWork_of_workingOn hquiet hwork)⟩
  have hstart : Granted id before.clock tokens before.ledger.store [] :=
    granted_nil huncapped' hsound id before.clock
  obtain ⟨fresh, hdecided, hgranted⟩ := hstart.replay (List.nil_append before.decided).symm hnonneg
    (hstill.spares_history hspares)
  rw [← ledger_run huncapped' moves] at hdecided hgranted
  have hafter : after.decided = fresh ++ before.decided := hdecided
  have hbegun : (decidedOn id after.decided).length + after.workingOn id =
      (decidedOn id before.decided).length + before.workingOn id + before.begun id moves :=
    decidedOn_run before id moves
  have hnobody : before.workingOn id = 0 := hquiet
  have hcounted : (decidedOn id after.decided).length =
      (decidedOn id fresh).length + (decidedOn id before.decided).length := by
    rw [hafter, decidedOn, List.filter_append, List.length_append]
    rfl
  refine ⟨fresh, hafter, by omega, hgranted.answered, hgranted.granted, fun hsome => ?_⟩
  have hvisitor := hgranted.visitor hsome
  rw [remaining, ← hgranted.granted] at hvisitor
  exact hvisitor

/-- One token and a half: of two calls on Alice that overlap, with one on Bob in between, the first
to be served is granted, and half a token is left. -/
theorem granted_at_one_instant_of_two_calls :
    let half : Instant := ⟨500000000, by decide⟩
    let earlier : List Move := [.call 0 "alice", .proceed 0, .proceed 0, .proceed 0, .setClock half]
    let moves : List Move := [.call 0 "alice", .call 1 "alice", .call 2 "bob", .proceed 2,
      .proceed 1, .proceed 2, .proceed 0, .proceed 2]
    let before := (opening .twoKept .epoch 3).run earlier
    Limits.twoKept.maxVisitors = none ∧ before.workingOn "alice" = 0 ∧
      (∀ move ∈ moves, move.spares "alice" = true) ∧
      (before.store.tokensOf "alice" before.clock).toRat = 3 / 2 ∧
      ∃ fresh, (before.run moves).decided = fresh ++ before.decided ∧
        2 = (decidedOn "alice" fresh).length + (before.run moves).workingOn "alice" ∧
        grantedOn "alice" fresh = min (decidedOn "alice" fresh).length ⌊(3 / 2 : ℚ)⌋₊ := by
  intro half earlier moves before
  have hquiet : before.workingOn "alice" = 0 := by decide +kernel
  have hspares : ∀ move ∈ moves, move.spares "alice" = true := by decide
  have htokens : (before.store.tokensOf "alice" before.clock).toRat = 3 / 2 := by decide +kernel
  have hbegun : before.begun "alice" moves = 2 := by decide +kernel
  obtain ⟨fresh, hdecided, hcounted, -, hgranted, -⟩ :=
    granted_at_one_instant rfl .epoch 3 earlier "alice" hquiet hspares
  rw [hbegun] at hcounted
  rw [htokens] at hgranted
  exact ⟨rfl, hquiet, hspares, htokens, fresh, hdecided, hcounted, hgranted⟩

end Crowd

end Admission
