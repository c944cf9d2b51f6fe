import Admission.Proofs.Reclaimer.Ticker
import Admission.Proofs.Session.Runs

/-!
# The schedule of the passes

From the moment at which a reclaimer is started, its passes come at their pace whatever the
session is told besides, as long as nobody stops or replaces the reclaimer and the store is there.
Time may pass in stretches of any length, running or jumping; the law is an invariant of the
time, the last pass and the next due one, kept by every command.

* `Session.passMoments`, `passMomentsAlong` — when a command, or a run, makes passes;
* `step_elapse` — these are the passes that the session answers for and that its store sees;
* `Ticking.step`, `Ticking.run` — the invariant, for one command and for runs;
* `passes_on_schedule` — what follows for the passes after the start of a reclaimer.
-/

namespace Admission

/-- Whether a command leaves the reclaimer and the store in their places. -/
def Command.sparesReclaimer : Command → Bool
  | .spawn _ | .shutdown | .dropReclaimer | .dropStore => false
  | _ => true

/-- Such a command lets time pass, or is the business of the clock or the store. -/
theorem Command.consults_or_elapse {command : Command} (h : command.sparesReclaimer = true) :
    command.consults = true ∨ ∃ passage length, command = .elapse passage length := by
  cases command with
  | elapse passage length => exact .inr ⟨passage, length, rfl⟩
  | spawn _ | shutdown | dropReclaimer | dropStore => cases h
  | _ => exact .inl rfl

namespace Session

/-- The moments at which a command makes the reclaimer pass over the store. -/
def passMoments (s : Session) : Command → List Nat
  | .elapse passage length =>
    match s.reclaimer, s.store with
    | some r, some _ =>
      if r.finished then []
      else (r.ticker.catchUp passage (s.elapsed + length.nanoseconds)).1
    | _, _ => []
  | _ => []

/-- The moments at which a run makes the reclaimer pass over the store. -/
def passMomentsAlong (s : Session) : List Command → List Nat
  | [] => []
  | command :: rest => s.passMoments command ++ (s.step command).1.passMomentsAlong rest

@[simp]
theorem elapsed_step_elapse (s : Session) (passage : Passage) (length : Duration) :
    (s.step (.elapse passage length)).1.elapsed = s.elapsed + length.nanoseconds := by
  cases hreclaimer : s.reclaimer with
  | none => simp only [step, elapse, hreclaimer]
  | some r => simp only [step, elapse, hreclaimer]

/-- **What passing time does**: as many passes as there are moments for them, all at the one
reading of the clock. -/
theorem step_elapse (s : Session) (passage : Passage) (length : Duration) :
    (s.step (.elapse passage length)).2.1 =
        .passes (s.passMoments (.elapse passage length)).length ∧
      (s.step (.elapse passage length)).1.store = s.store.map fun store =>
        (Reclaimer.passes store s.clock (s.passMoments (.elapse passage length)).length).1 := by
  by_cases hfinished : ∀ r, s.reclaimer = some r → r.finished = true
  · have hnone : s.passMoments (.elapse passage length) = [] := by
      simp only [passMoments]
      cases hreclaimer : s.reclaimer with
      | none => rfl
      | some r => cases s.store <;> simp [hfinished r hreclaimer]
    rw [step, elapse_of_finished hfinished, hnone]
    cases s.store <;> exact ⟨rfl, rfl⟩
  · push Not at hfinished
    obtain ⟨⟨ticker, finished⟩, hreclaimer, hgoes⟩ := hfinished
    obtain rfl : finished = false := Bool.eq_false_iff.2 hgoes
    cases hstore : s.store with
    | none =>
      rw [step, elapse_of_orphaned hreclaimer hstore]
      simp [passMoments, hreclaimer, hstore]
    | some store =>
      rw [step, elapse_of_live hreclaimer hstore]
      simp [passMoments, hreclaimer, hstore]

/-! ## The invariant -/

/-- The session's reclaimer is at work: its store is there, nothing is due, and the next pass
follows the last one at its pace. -/
structure Ticking (s : Session) (ticker : Ticker) (last : Nat) : Prop where
  reclaimer : s.reclaimer = some ⟨ticker, false⟩
  store : s.store.isSome = true
  pending : s.elapsed < ticker.due
  paced : ticker.Paced last

namespace Ticking

variable {s : Session} {ticker : Ticker} {last : Nat}

theorem passMoments_elapse (h : s.Ticking ticker last) (passage : Passage) (length : Duration) :
    s.passMoments (.elapse passage length) =
      (ticker.catchUp passage (s.elapsed + length.nanoseconds)).1 := by
  obtain ⟨store, hstore⟩ := Option.isSome_iff_exists.1 h.store
  simp only [passMoments, h.reclaimer, hstore, Bool.false_eq_true, if_false]

/-- While time passes the reclaimer catches up. -/
theorem elapse (h : s.Ticking ticker last) (passage : Passage) (length : Duration) :
    let after := (ticker.catchUp passage (s.elapsed + length.nanoseconds)).2
    (s.step (.elapse passage length)).1.Ticking after
        ((s.passMoments (.elapse passage length)).getLastD last) ∧
      ticker.CaughtUp last (s.step (.elapse passage length)).1.elapsed
        (s.passMoments (.elapse passage length)) after := by
  have hcaught := h.paced.catchUp passage (s.elapsed + length.nanoseconds)
  rw [h.passMoments_elapse]
  obtain ⟨store, hstore⟩ := Option.isSome_iff_exists.1 h.store
  have hstep := elapse_of_live h.reclaimer hstore passage length
  rw [Session.step, hstep]
  exact ⟨⟨rfl, rfl, hcaught.past, hcaught.paced⟩, hcaught⟩

/-- A command that is the business of the clock or the store leaves it as it is. -/
theorem of_consults (h : s.Ticking ticker last) {command : Command}
    (hconsults : command.consults = true) :
    (s.step command).1.Ticking ticker last ∧ (s.step command).1.elapsed = s.elapsed ∧
      s.passMoments command = [] := by
  obtain ⟨helapsed, hreclaimer, hstore⟩ := s.step_of_consults hconsults
  refine ⟨⟨hreclaimer.trans h.reclaimer, hstore.trans h.store, ?_, h.paced⟩, helapsed, ?_⟩
  · rw [helapsed]
    exact h.pending
  · cases command with
    | elapse _ _ => cases hconsults
    | _ => rfl

/-- **Every command that spares the reclaimer keeps it at its pace.** -/
theorem step (h : s.Ticking ticker last) {command : Command}
    (hspares : command.sparesReclaimer = true) :
    ∃ after, (s.step command).1.Ticking after ((s.passMoments command).getLastD last) ∧
      ticker.CaughtUp last (s.step command).1.elapsed (s.passMoments command) after ∧
      s.elapsed ≤ (s.step command).1.elapsed ∧
      ((∀ length, command ≠ .elapse .jumping length) →
        after.due = ticker.due + (s.passMoments command).length * ticker.period.nanoseconds) := by
  rcases Command.consults_or_elapse hspares with hconsults | ⟨passage, length, rfl⟩
  · obtain ⟨hticking, helapsed, hmoments⟩ := h.of_consults hconsults
    rw [hmoments, helapsed]
    refine ⟨ticker, hticking, Ticker.caughtUp_nil h.paced h.pending, le_refl _, ?_⟩
    intro _
    simp
  · obtain ⟨hticking, hcaught⟩ := h.elapse passage length
    refine ⟨_, hticking, hcaught, ?_, ?_⟩
    · rw [elapsed_step_elapse]
      exact Nat.le_add_right _ _
    · intro hsleep
      have hrunning : passage = .running := by
        cases passage with
        | running => rfl
        | jumping => exact absurd rfl (hsleep length)
      rw [h.passMoments_elapse]
      exact Ticker.due_catchUp_of_punctual (.inl hrunning)

/-- **A run that spares the reclaimer keeps it at its pace.** -/
theorem run (h : s.Ticking ticker last) {commands : List Command}
    (hspares : ∀ command ∈ commands, command.sparesReclaimer = true) :
    ∃ after, (s.run commands).1.Ticking after ((s.passMomentsAlong commands).getLastD last) ∧
      ticker.CaughtUp last (s.run commands).1.elapsed (s.passMomentsAlong commands) after ∧
      s.elapsed ≤ (s.run commands).1.elapsed ∧
      ((∀ length, .elapse .jumping length ∉ commands) →
        after.due =
          ticker.due + (s.passMomentsAlong commands).length * ticker.period.nanoseconds) := by
  induction commands generalizing s ticker last with
  | nil =>
    refine ⟨ticker, h, Ticker.caughtUp_nil h.paced h.pending, le_refl _, ?_⟩
    intro _
    simp [passMomentsAlong]
  | cons command rest ih =>
    obtain ⟨middle, hstep, hfirst, htime, hsleep⟩ :=
      h.step (hspares command (List.mem_cons_self ..))
    obtain ⟨after, hrun, hrest, htimes, hsleeps⟩ :=
      ih hstep fun later hlater => hspares later (List.mem_cons_of_mem _ hlater)
    have hlast : (s.passMomentsAlong (command :: rest)).getLastD last =
        ((s.step command).1.passMomentsAlong rest).getLastD
          ((s.passMoments command).getLastD last) := by
      simp [passMomentsAlong]
    rw [run_cons, hlast]
    refine ⟨after, hrun, hfirst.trans hrest htimes, htime.trans htimes, ?_⟩
    intro hnojump
    have h₁ := hsleep fun length heq => hnojump length (heq ▸ List.mem_cons_self ..)
    have h₂ := hsleeps fun length hmem => hnojump length (List.mem_cons_of_mem _ hmem)
    rw [h₂, h₁, hfirst.period, passMomentsAlong, List.length_append, Nat.add_mul]
    omega

end Ticking

/-- A reclaimer that was just started is at work. -/
theorem ticking_of_spawned {s : Session} {requested period : Duration}
    (h : (s.step (.spawn requested)).2.1 = .spawned (.ok period)) :
    ∃ ticker, (s.step (.spawn requested)).1.Ticking ticker s.elapsed ∧
      (s.step (.spawn requested)).1.elapsed = s.elapsed ∧ ticker.period = period ∧
      ticker.tolerance = Ticker.defaultTolerance ∧
      ticker.due = s.elapsed + period.nanoseconds := by
  obtain ⟨clock, store, elapsed, reclaimer⟩ := s
  cases store with
  | none => cases h
  | some store =>
    simp only [step, stepStore] at h ⊢
    cases hspawn : Reclaimer.spawn store.limits requested elapsed with
    | error e =>
      rw [hspawn] at h
      cases h
    | ok r =>
      obtain rfl := Reclaimer.eq_of_spawn hspawn
      rw [hspawn] at h
      simp only [Answer.spawned.injEq, Except.ok.injEq] at h
      subst h
      have hpos := Reclaimer.effectiveInterval_pos store.limits requested
      refine ⟨_, ⟨rfl, rfl, ?_, ⟨le_refl _, Nat.le_add_right _ _⟩⟩, rfl, rfl, rfl, rfl⟩
      exact Nat.lt_add_of_pos_right hpos

/-- **The passes keep to their schedule.**  Let a reclaimer be started, and then let anything be
done but stopping it, replacing it, or dropping the store.  No pass runs before a period has
passed, and successive passes are a period apart but for five milliseconds.  The next pass is due
later than now, so none that is due was left out, and at most a period after the last pass or the
start.  A jump from there ends, with as many passes as firing the ticker until nothing is due:
one at most, unless the period fits into five milliseconds.  When time only ran and never jumped,
there were as many passes as whole periods. -/
theorem passes_on_schedule {s : Session} {requested period : Duration}
    (hspawned : (s.step (.spawn requested)).2.1 = .spawned (.ok period))
    {commands : List Command}
    (hspares : ∀ command ∈ commands, command.sparesReclaimer = true) :
    let started := (s.step (.spawn requested)).1
    let after := (started.run commands).1
    let passes := started.passMomentsAlong commands
    0 < period.nanoseconds ∧
      (∀ pass ∈ passes, s.elapsed + period.nanoseconds ≤ pass) ∧
      passes.IsChain (fun earlier later => earlier + period.nanoseconds ≤ later + 5000000) ∧
      (∃ ticker, after.reclaimer = some ⟨ticker, false⟩ ∧ after.store.isSome = true ∧
        after.elapsed < ticker.due ∧
        ticker.due ≤ passes.getLastD s.elapsed + period.nanoseconds ∧
        ∀ length, let jump := after.passMoments (.elapse .jumping length)
          (after.step (.elapse .jumping length)).2.1 = .passes jump.length ∧
          IsLeast {n | after.elapsed + length.nanoseconds <
              ((fun t => t.fire (after.elapsed + length.nanoseconds))^[n] ticker).due}
            jump.length ∧
          (5000000 < period.nanoseconds → jump.length ≤ 1)) ∧
      ((∀ length, .elapse .jumping length ∉ commands) →
        passes.length = (after.elapsed - s.elapsed) / period.nanoseconds) := by
  intro started after passes
  obtain ⟨first, hstarted, htime, hfirst, htolerance, hdue⟩ := ticking_of_spawned hspawned
  obtain ⟨ticker, hticking, hcaught, htimes, hsleeps⟩ := hstarted.run hspares
  have hperiod : ticker.period = period := hcaught.period.trans hfirst
  have htolerance' : ticker.tolerance.nanoseconds = 5000000 := by
    rw [hcaught.tolerance, htolerance]
    rfl
  have hpos : 0 < period.nanoseconds := hperiod ▸ ticker.period_pos
  have hnext : ticker.due ≤ passes.getLastD s.elapsed + period.nanoseconds :=
    hperiod ▸ hticking.paced.due_le
  refine ⟨hpos, ?_, ?_, ⟨ticker, hticking.reclaimer, hticking.store, hticking.pending, hnext, ?_⟩,
    ?_⟩
  · intro pass hpass
    exact hdue ▸ hcaught.due_le pass hpass
  · have hapart := hcaught.apart.tail
    unfold Ticker.Apart at hapart
    rw [hfirst, htolerance] at hapart
    exact hapart
  · intro length jump
    have hjump : jump = (ticker.catchUp .jumping (after.elapsed + length.nanoseconds)).1 :=
      hticking.passMoments_elapse .jumping length
    have hfew := ticker.length_catchUp_jumping_le (after.elapsed + length.nanoseconds)
    refine ⟨(after.step_elapse .jumping length).1, ?_, ?_⟩
    · rw [hjump]
      exact ticker.isLeast_length_catchUp .jumping (after.elapsed + length.nanoseconds)
    · intro hlong
      rw [hperiod, htolerance', Nat.div_eq_of_lt hlong] at hfew
      rwa [hjump]
  · intro hnojump
    -- The due time tells the number of passes; it lies within a period after now.
    have hschedule : ticker.due = s.elapsed + period.nanoseconds +
        passes.length * period.nanoseconds := by
      rw [hsleeps hnojump, hdue, hfirst]
    have hlast : passes.getLastD s.elapsed ≤ after.elapsed := hcaught.last_le (htime ▸ htimes)
    have hpending : after.elapsed < ticker.due := hticking.pending
    refine (Nat.div_eq_of_lt_le ?_ ?_).symm
    · omega
    · rw [Nat.succ_mul]
      omega

/-- A period of ten seconds: a jump over several ticks with a request before it, and time that
runs for twenty-five seconds in two stretches. -/
theorem passes_on_schedule_of_ten_seconds :
    let s := start .oneASecond .epoch
    let period := Duration.ofSeconds 10
    let jumps : List Command :=
      [.elapse .running (.ofSeconds 25), .allow "alice", .elapse .jumping (.ofSeconds 100),
        .elapse .running (.ofSeconds 15)]
    let sleeps : List Command :=
      [.elapse .running (.ofSeconds 7), .elapse .running (.ofSeconds 18)]
    (s.step (.spawn period)).2.1 = .spawned (.ok period) ∧
      (∀ command ∈ jumps, command.sparesReclaimer = true) ∧
      ((s.step (.spawn period)).1.passMomentsAlong jumps).IsChain
        (fun earlier later => earlier + 10000000000 ≤ later + 5000000) ∧
      (∀ command ∈ sleeps, command.sparesReclaimer = true) ∧
      (∀ length, .elapse .jumping length ∉ sleeps) ∧
      ((s.step (.spawn period)).1.passMomentsAlong sleeps).length = 2 := by
  intro s period jumps sleeps
  have hspawned : (s.step (.spawn period)).2.1 = .spawned (.ok period) := rfl
  have hjumps : ∀ command ∈ jumps, command.sparesReclaimer = true := by decide
  have hsleeps : ∀ command ∈ sleeps, command.sparesReclaimer = true := by decide
  have hnojump : ∀ length, .elapse .jumping length ∉ sleeps := by
    intro length hmem
    simp [sleeps] at hmem
  obtain ⟨-, -, hapart, -, -⟩ := passes_on_schedule hspawned hjumps
  obtain ⟨-, -, -, -, hcount⟩ := passes_on_schedule hspawned hsleeps
  have hstart : (s.step (.spawn period)).1.elapsed = 0 := rfl
  have helapsed : ((s.step (.spawn period)).1.run sleeps).1.elapsed = 25000000000 := by
    simp [sleeps, run, hstart, Duration.ofSeconds]
  have hperiod : period.nanoseconds = 10000000000 := by simp [period, Duration.ofSeconds]
  have helapsed₀ : s.elapsed = 0 := rfl
  rw [helapsed, hperiod, helapsed₀] at hcount
  exact ⟨hspawned, hjumps, hapart, hsleeps, hnojump, hcount hnojump⟩

end Session
end Admission
