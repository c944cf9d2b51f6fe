import Admission.Proofs.Crowd.Sections

/-!
# Calls that overlap, one after the other

Where a store has no cap, nobody can tell that calls overlapped.  Each of them might as well have
been made at once, with the time it had read, in its deciding section: that is the lookup where
it finds the identifier, and else the entry.  The lookup and the entry are sections of their own,
so somebody else may have created the visitor in between, or a pass may have dropped it; the
entry takes the store as it then stands, and so does a decision made at that moment.

* `Operation`, `Ledger.replay` — what callers do to a store who come one after the other;
* `Crowd.operation?`, `Crowd.history` — the operations that the moves of a crowd amount to;
* `Operation.affect` — what an operation does to the one visitor of an identifier;
* `ledger_run_eq_replay_history` — the same answers, the same log and the same store.
-/

namespace Admission

namespace Crowd

/-- What is done to a store at one moment. -/
inductive Operation where
  | allow (caller : Nat) (call : Call)
  | visit (id : String) (reading : Instant)
  | forget (id : String)
  | clear
deriving DecidableEq

/-- A store, and the calls that are over, the last one first. -/
structure Ledger where
  store : Store
  decided : List Decided

namespace Ledger

/-- One operation; a call is one decision, at the time it had read. -/
def perform (l : Ledger) : Operation → Ledger
  | .allow caller call =>
    let reply := l.store.allow call.id call.reading
    ⟨reply.state, ⟨caller, call, reply.answer, reply.events⟩ :: l.decided⟩
  | .visit id reading => { l with store := l.store.visit id reading }
  | .forget id => { l with store := l.store.forget id }
  | .clear => { l with store := l.store.clear }

/-- Operations, one after the other. -/
def replay (l : Ledger) (operations : List Operation) : Ledger :=
  operations.foldl perform l

theorem replay_append (l : Ledger) (first rest : List Operation) :
    l.replay (first ++ rest) = (l.replay first).replay rest :=
  List.foldl_append

end Ledger

/-- What a crowd has done so far. -/
def ledger (c : Crowd) : Ledger :=
  ⟨c.store, c.decided⟩

/-- The operation that a move amounts to, if any.  A section that decides a call stands for the
whole call, the other sections for nothing. -/
def operation? (c : Crowd) : Move → Option Operation
  | .proceed caller =>
    match c.callers[caller]? with
    | some (.looking call) =>
      if c.store.contains call.id then some (.allow caller call) else none
    | some (.entering call) => some (.allow caller call)
    | _ => none
  | .visit pass id => (c.passes[pass]?).map fun reading => .visit id reading
  | .forget id => some (.forget id)
  | .clear => some .clear
  | .setClock _ | .call _ _ | .startPass => none

/-- The operations that moves amount to, in order. -/
def history (c : Crowd) : List Move → List Operation
  | [] => []
  | move :: rest => (c.operation? move).toList ++ (c.step move).history rest

/-- What an operation makes of the visitor of an identifier, if it has one: a call on it serves
it, or a new visitor in its place, once; a pass keeps it unless it is stale; a clearing drops it. -/
def Operation.affect (limits : Limits) (id : String) (visitor : Option Visitor) :
    Operation → Option Visitor
  | .allow _ call =>
    if call.id = id then some (serve limits.allowance visitor call.reading).2 else visitor
  | .visit other reading =>
    if other = id then visitor.filter fun v => !v.isStale reading limits.expiresIn else visitor
  | .forget other => if other = id then none else visitor
  | .clear => none

/-! ## One move -/

variable {c : Crowd}

/-- A section amounts to the decision it stands for. -/
theorem ledger_proceed (h : c.store.Uncapped) (caller : Nat) :
    (c.proceed caller).ledger = c.ledger.replay (c.operation? (.proceed caller)).toList := by
  have hallow : ∀ call : Call, (c.settle caller call (c.store.enrolled call.id call.reading)).ledger
      = c.ledger.perform (.allow caller call) := by
    intro call
    have hserved := h.refused_eq_none call.id
    simp only [Ledger.perform, ledger, settle, Store.allow_eq_enrolled hserved]
  have hsection := section_proceed c caller
  generalize c.proceed caller = d at hsection
  cases hsection with
  | charged stage tracked =>
    rw [hallow]
    simp only [operation?, stage, tracked]
    rfl
  | missed stage untracked =>
    simp only [operation?, stage, untracked]
    rfl
  | refused stage full =>
    have hroom : c.store.refusal? = none := by rw [Store.refusal?, h, Option.filter_none]
    rw [hroom] at full
    cases full
  | passed stage room =>
    simp only [operation?, stage]
    rfl
  | entered stage =>
    rw [hallow]
    simp only [operation?, stage]
    rfl
  | absent stage =>
    rcases stage with stage | stage <;> simp only [operation?, stage] <;> rfl

/-- **Every move amounts to its operation**, or to nothing. -/
theorem ledger_step (h : c.store.Uncapped) (move : Move) :
    (c.step move).ledger = c.ledger.replay (c.operation? move).toList := by
  cases move with
  | setClock _ | startPass | forget _ | clear => rfl
  | call caller id =>
    simp only [step]
    split <;> rfl
  | proceed caller => exact ledger_proceed h caller
  | visit pass id =>
    simp only [step, operation?]
    cases c.passes[pass]? <;> rfl

/-! ## One operation on one identifier -/

namespace Ledger

variable {l : Ledger}

@[simp] theorem perform_limits (l : Ledger) (operation : Operation) :
    (l.perform operation).store.limits = l.store.limits := by
  cases operation with
  | allow caller call => exact Store.allow_limits l.store call.id call.reading
  | visit id reading => exact Store.visit_limits l.store id reading
  | forget _ | clear => rfl

theorem visitor?_perform (h : l.store.Uncapped) (id : String) (operation : Operation) :
    (l.perform operation).store.visitor? id =
      operation.affect l.store.limits id (l.store.visitor? id) := by
  cases operation with
  | allow caller call =>
    have hserved := h.refused_eq_none call.id
    simp only [perform, Operation.affect]
    split
    · next hid =>
      subst hid
      exact Store.visitor?_allow_self hserved call.reading
    · next hid => exact Store.visitor?_allow_other l.store (Ne.symm hid) call.reading
  | visit other reading =>
    simp only [perform, Operation.affect]
    split
    · next hid =>
      subst hid
      exact Store.visitor?_visit_self l.store other reading
    · next hid => exact Store.visitor?_visit_other l.store (Ne.symm hid) reading
  | forget other =>
    simp only [perform, Operation.affect]
    split
    · next hid =>
      subst hid
      exact Store.visitor?_forget_self l.store other
    · next hid => exact Store.visitor?_forget_other l.store (Ne.symm hid)
  | clear => exact Store.visitor?_clear l.store id

/-- **Each identifier has one visitor**, and all that was done to it was done to that one. -/
theorem visitor?_replay (h : l.store.Uncapped) (id : String) (operations : List Operation) :
    (l.replay operations).store.visitor? id =
      operations.foldl (Operation.affect l.store.limits id) (l.store.visitor? id) := by
  induction operations generalizing l with
  | nil => rfl
  | cons operation rest ih =>
    have hlimits := l.perform_limits operation
    have hrest := ih (h.congr hlimits.symm)
    rw [visitor?_perform h, hlimits] at hrest
    exact hrest

end Ledger

/-! ## Runs -/

/-- The ledger of a run is that of the operations it amounts to. -/
theorem ledger_run (h : c.store.Uncapped) (moves : List Move) :
    (c.run moves).ledger = c.ledger.replay (c.history moves) := by
  induction moves generalizing c with
  | nil => rfl
  | cons move rest ih =>
    have huncapped : (c.step move).store.Uncapped := h.congr (step_limits c move).symm
    calc ((c.step move).run rest).ledger
        = (c.step move).ledger.replay ((c.step move).history rest) := ih huncapped
      _ = (c.ledger.replay (c.operation? move).toList).replay ((c.step move).history rest) := by
        rw [ledger_step h]
      _ = c.ledger.replay (c.history (move :: rest)) := (Ledger.replay_append _ _ _).symm

/-- **Overlapping calls might as well come one after the other.**  On a store without a cap, a
run in which the sections of calls alternate in any way with each other, with passes and with
clearings gives the answers, the log and the store of the decisions made at once, each at the
time it had read and in its deciding section.  In particular the visitor of an identifier is what
all calls on it, in that order, have made of it since it was last dropped. -/
theorem ledger_run_eq_replay_history (h : c.store.Uncapped) (moves : List Move) :
    (c.run moves).ledger = c.ledger.replay (c.history moves) ∧
      ∀ id, (c.run moves).store.visitor? id =
        (c.history moves).foldl (Operation.affect c.store.limits id) (c.store.visitor? id) := by
  have hledger := ledger_run h moves
  refine ⟨hledger, fun id => ?_⟩
  calc (c.run moves).store.visitor? id
      = (c.ledger.replay (c.history moves)).store.visitor? id :=
        congrArg (fun l : Ledger => l.store.visitor? id) hledger
    _ = _ := Ledger.visitor?_replay h id (c.history moves)

/-- Two calls on a new identifier: the one that looked first enters last, and is charged to the
visitor that the other has created. -/
theorem ledger_run_eq_replay_history_of_two_calls :
    let c := opening .oneASecond .epoch 2
    let moves : List Move := [.call 0 "alice", .proceed 0, .call 1 "alice", .proceed 1,
      .proceed 1, .proceed 1, .proceed 0, .proceed 0]
    c.store.Uncapped ∧
      c.history moves = [.allow 1 ⟨"alice", .epoch⟩, .allow 0 ⟨"alice", .epoch⟩] ∧
      (c.run moves).decided.map (fun d => (d.caller, d.answer.toOption)) =
        [(0, some false), (1, some true)] ∧
      (c.run moves).ledger = c.ledger.replay (c.history moves) := by
  intro c moves
  have h : c.store.Uncapped := rfl
  exact ⟨h, by decide +kernel, by decide +kernel, (ledger_run_eq_replay_history h moves).1⟩

end Crowd
end Admission
