import Admission.Proofs.Session.Runs
import Admission.Proofs.Store.Capacity

/-!
# Sessions over a store with a cap

A cap does one thing: it refuses identifiers that are new while the store is full.  A refusal
leaves no trace, so a run over a store with a cap is the run over the same store without one that
is told everything but the refused requests.

* `Session.refuses`, `Session.accepted` — the requests that the cap keeps out, and a run
  without them;
* `step_of_refuses` — a refused request changes nothing;
* `step_withoutCap` — every other command does what it would do without the cap;
* `run_within_cap` — what follows for runs that start with an empty store.
-/

namespace Admission

namespace Session

/-- The same session without the cap. -/
def withoutCap (s : Session) : Session :=
  { s with store := s.store.map Store.withoutCap }

/-- Whether a command asks for an identifier that the store refuses. -/
def refuses (s : Session) : Command → Bool
  | .allow id | .allowMany id _ => s.store.any fun store => (store.refused id).isSome
  | _ => false

/-- A run without the requests that are refused: the other commands with their answers. -/
def accepted (s : Session) : List Command → List (Command × Answer)
  | [] => []
  | command :: rest =>
    let (t, answer, _) := s.step command
    if s.refuses command then t.accepted rest else (command, answer) :: t.accepted rest

variable {s : Session} {command : Command}

/-! ## One command -/

theorem refuses_allow {store : Store} (h : s.store = some store) (id : String) :
    s.refuses (.allow id) = true ↔ ∃ limit, store.refused id = some limit := by
  rw [refuses, h]
  exact Option.isSome_iff_exists

/-- A request fails exactly when it is refused, and then for the cap. -/
theorem answer_eq_error_iff {store : Store} (h : s.store = some store) {id : String}
    {e : StoreError} : (s.step (.allow id)).2.1 = .decision (.error e) ↔
      ∃ limit, store.refused id = some limit ∧ e = .capacityExceeded limit := by
  have hstep : (s.step (.allow id)).2.1 = .decision (store.allow id s.clock).answer := by
    simp only [step, h, stepStore]
  rw [hstep, Answer.decision.injEq]
  exact Store.allow_eq_error_iff

/-- A refused request changes nothing. -/
theorem step_of_refuses (h : s.refuses command = true) : (s.step command).1 = s := by
  obtain ⟨clock, store, elapsed, reclaimer⟩ := s
  cases command with
  | allow id =>
    cases store with
    | none => cases h
    | some store =>
      obtain ⟨limit, hlimit⟩ := Option.isSome_iff_exists.1 h
      simp only [step, stepStore, Store.allow_eq_turnedAway hlimit]
      rfl
  | allowMany id n =>
    cases store with
    | none => cases h
    | some store =>
      obtain ⟨limit, hlimit⟩ := Option.isSome_iff_exists.1 h
      simp only [step, stepStore, Store.allowMany_of_refused hlimit]
  | _ => cases h

/-- Passes do not look at the cap. -/
theorem elapse_withoutCap (s : Session) (passage : Passage) (length : Duration) :
    s.withoutCap.elapse passage length =
      ((s.elapse passage length).1.withoutCap, (s.elapse passage length).2) := by
  obtain ⟨clock, store, elapsed, reclaimer⟩ := s
  cases reclaimer with
  | none => rfl
  | some r =>
    cases hfinished : r.finished with
    | true => simp only [elapse, withoutCap, Reclaimer.pass, hfinished, if_pos]
    | false =>
      cases store with
      | none =>
        simp only [elapse, withoutCap, Reclaimer.pass, hfinished, Option.map_none]
        by_cases hdue : r.ticker.due ≤ elapsed + length.nanoseconds <;> simp [hdue]
      | some store =>
        simp only [elapse, withoutCap, Reclaimer.pass, hfinished, Option.map_some,
          Store.passes_withoutCap]
        rfl

/-- **A command that is not refused does what it would do without the cap.** -/
theorem step_withoutCap (h : s.refuses command = false) :
    s.withoutCap.step command = ((s.step command).1.withoutCap, (s.step command).2) := by
  obtain ⟨clock, store, elapsed, reclaimer⟩ := s
  cases command with
  | setClock _ | isFinished | interval | dropReclaimer => rfl
  | dropStore => cases store <;> rfl
  | advanceClock nanoseconds =>
    simp only [step, withoutCap]
    split <;> rfl
  | elapse passage length => exact elapse_withoutCap _ passage length
  | shutdown => cases reclaimer <;> rfl
  | reclaim | clear | contains _ | isEmpty | visitor _ => cases store <;> rfl
  | spawn interval =>
    cases store with
    | none => rfl
    | some store =>
      have hspawn : Reclaimer.spawn store.withoutCap.limits interval elapsed =
          Reclaimer.spawn store.limits interval elapsed := rfl
      simp only [step, stepStore, withoutCap, Option.map_some, hspawn]
      split <;> rfl
  | allow id =>
    cases store with
    | none => rfl
    | some store =>
      have hserved : store.refused id = none :=
        Option.not_isSome_iff_eq_none.1 (ne_true_of_eq_false h)
      simp only [step, stepStore, withoutCap, Option.map_some, Store.allow_withoutCap hserved]
  | allowMany id n =>
    cases store with
    | none => rfl
    | some store =>
      have hserved : store.refused id = none :=
        Option.not_isSome_iff_eq_none.1 (ne_true_of_eq_false h)
      simp only [step, stepStore, withoutCap, Option.map_some,
        Store.allowMany_withoutCap hserved]

/-! ## Runs -/

/-- **Without the cap the accepted commands get the same answers** and leave the same store. -/
theorem accepted_withoutCap (s : Session) (commands : List Command) :
    s.withoutCap.transcript ((s.accepted commands).map Prod.fst) = s.accepted commands ∧
      (s.withoutCap.run ((s.accepted commands).map Prod.fst)).1 =
        (s.run commands).1.withoutCap := by
  induction commands generalizing s with
  | nil => exact ⟨rfl, rfl⟩
  | cons command rest ih =>
    obtain ⟨htranscript, hrun⟩ := ih (s.step command).1
    simp only [accepted]
    cases hrefuses : s.refuses command with
    | true =>
      rw [if_pos rfl, run_cons]
      have hstay := step_of_refuses hrefuses
      rw [hstay] at htranscript hrun ⊢
      exact ⟨htranscript, hrun⟩
    | false =>
      have hstep := step_withoutCap hrefuses
      rw [if_neg Bool.false_ne_true, List.map_cons, transcript_cons, run_cons, run_cons, hstep]
      exact ⟨congrArg _ htranscript, hrun⟩

/-- **What a cap does.**  In every state of a run that started with an empty store, the cap is
kept; a request is refused exactly when its identifier is new and the store is full, it fails
then and only then, with the cap for a reason, and it changes nothing.  The run without the
refused requests is a run over the same store without the cap: the same answers, and the same
visitors in the end. -/
theorem run_within_cap {limits : Limits} {cap : Nat} (hcap : limits.maxVisitors = some cap)
    (now : Instant) (commands : List Command) :
    let s := ((start limits now).run commands).1
    let accepted := (start limits now).accepted commands
    (∀ size, s.size? = some size → size ≤ cap) ∧
      (∀ store, s.store = some store → ∀ id,
        (s.refuses (.allow id) = true ↔ store.contains id = false ∧ cap ≤ store.size) ∧
        (s.refuses (.allow id) = true ↔
          ∃ e, (s.step (.allow id)).2.1 = .decision (.error e)) ∧
        ∀ e, (s.step (.allow id)).2.1 = .decision (.error e) →
          e = .capacityExceeded cap ∧ (s.step (.allow id)).1 = s) ∧
      (start limits.withoutCap now).transcript (accepted.map Prod.fst) = accepted ∧
      ((start limits.withoutCap now).run (accepted.map Prod.fst)).1 = s.withoutCap := by
  intro s accepted
  have hover : s.Over limits := (over_start limits now).run commands
  obtain ⟨htranscript, hrun⟩ := accepted_withoutCap (start limits now) commands
  refine ⟨?_, ?_, htranscript, hrun⟩
  · intro size hsize
    obtain ⟨store, hstore, rfl⟩ := Option.map_eq_some_iff.1 hsize
    exact (hover store hstore).size_le hcap
  · intro store hstore id
    have hlimit : store.limits.maxVisitors = some cap := by
      rw [(hover store hstore).limits_eq, hcap]
    refine ⟨?_, ?_, ?_⟩
    · rw [refuses_allow hstore, Store.exists_refused_iff hlimit]
    · rw [refuses_allow hstore]
      simp only [answer_eq_error_iff hstore]
      constructor
      · rintro ⟨limit, h⟩
        exact ⟨_, limit, h, rfl⟩
      · rintro ⟨_, limit, h, -⟩
        exact ⟨limit, h⟩
    · intro e he
      obtain ⟨limit, h, rfl⟩ := (answer_eq_error_iff hstore).1 he
      have hrefuses := (refuses_allow hstore id).2 ⟨limit, h⟩
      exact ⟨congrArg _ (Store.eq_cap_of_refused hlimit h), step_of_refuses hrefuses⟩

/-- A second identifier is refused, and admitted once a pass has made room for it. -/
theorem run_within_cap_of_two_visitors :
    let commands : List Command :=
      [.allow "alice", .allow "bob", .advanceClock 61000000000, .reclaim, .allow "bob",
        .allow "alice", .allow "bob"]
    let accepted := (start .oneVisitor .epoch).accepted commands
    Limits.oneVisitor.maxVisitors = some 1 ∧ accepted.length = 5 ∧
      (start Limits.oneVisitor.withoutCap .epoch).transcript (accepted.map Prod.fst) =
        accepted := by
  intro commands accepted
  have hcap : Limits.oneVisitor.maxVisitors = some 1 := rfl
  exact ⟨hcap, by decide +kernel, (run_within_cap hcap .epoch commands).2.2.1⟩

end Session

end Admission
