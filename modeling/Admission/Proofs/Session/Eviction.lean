import Admission.Proofs.Session.Runs
import Admission.Proofs.Store.Eviction
import Mathlib.Data.Option.Basic

/-!
# Passes that nobody notices

Where the idle period fills a bucket, the passes over a store, by hand or by a reclaimer, change
no decision.  Two sessions are alike when their clocks agree and their stores are; a command that
makes passes may be run by one of them alone.  The clock must not move back: a bucket forgotten
at noon and a bucket kept answer alike at noon and after it, but not before.
-/

namespace Admission

/-- Whether a command only sees to the passes over the store. -/
def Command.isUpkeep : Command → Bool
  | .reclaim | .spawn _ | .elapse _ _ | .shutdown | .dropReclaimer => true
  | _ => false

/-- Whether a command asks for decisions. -/
def Command.decides : Command → Bool
  | .allow _ | .allowMany _ _ => true
  | _ => false

/-- Upkeep leaves the clock alone. -/
theorem Command.clockAfter_of_isUpkeep {command : Command} (h : command.isUpkeep = true)
    (now : Instant) : command.clockAfter now = now := by
  cases command with
  | setClock _ | advanceClock _ => simp [isUpkeep] at h
  | _ => rfl

namespace Session

/-- The decisions of a run. -/
def decisions (s : Session) (commands : List Command) : List (Command × Answer) :=
  (s.transcript commands).filter fun entry => entry.1.decides

/-- Two sessions that no decision from now on can tell apart. -/
structure Alike (s t : Session) : Prop where
  clock : s.clock = t.clock
  store : Option.Rel (Store.Alike s.clock) s.store t.store

namespace Alike

variable {s t : Session}

/-- **Every command keeps two sessions alike**, unless it makes passes or moves the clock
back. -/
theorem step (h : Alike s t) {command : Command} (hupkeep : command.isUpkeep = false)
    (hforward : s.clock.sinceEpoch ≤ (command.clockAfter s.clock).sinceEpoch) :
    Alike (s.step command).1 (t.step command).1 := by
  obtain ⟨clock, store, elapsed, reclaimer⟩ := s
  obtain ⟨clock', store', elapsed', reclaimer'⟩ := t
  obtain ⟨hclock, hstore⟩ := h
  dsimp only at hclock hstore hforward
  subst hclock
  cases command with
  | setClock now =>
    cases hstore with
    | none => exact ⟨rfl, .none⟩
    | some h => exact ⟨rfl, .some (h.later hforward)⟩
  | advanceClock nanoseconds =>
    simp only [Session.step]
    cases hnow : clock.advance? nanoseconds with
    | none => exact ⟨rfl, hstore⟩
    | some now =>
      have hlater : clock.sinceEpoch ≤ now.sinceEpoch := by
        simpa [Command.clockAfter, hnow] using hforward
      cases hstore with
      | none => exact ⟨rfl, .none⟩
      | some h => exact ⟨rfl, .some (h.later hlater)⟩
  | isFinished | interval => exact ⟨rfl, hstore⟩
  | dropStore => exact ⟨rfl, .none⟩
  | allow id =>
    cases hstore with
    | none => exact ⟨rfl, .none⟩
    | some h => exact ⟨rfl, .some (h.allow id)⟩
  | allowMany id n =>
    cases hstore with
    | none => exact ⟨rfl, .none⟩
    | some h => exact ⟨rfl, .some (h.allowMany id n)⟩
  | clear =>
    cases hstore with
    | none => exact ⟨rfl, .none⟩
    | some h => exact ⟨rfl, .some h.clear⟩
  | contains _ | isEmpty | visitor _ =>
    cases hstore with
    | none => exact ⟨rfl, .none⟩
    | some h => exact ⟨rfl, .some h⟩
  | reclaim | spawn _ | elapse _ _ | shutdown | dropReclaimer =>
    simp [Command.isUpkeep] at hupkeep

/-- The ticks of a reclaimer keep its store alike to another. -/
theorem pass_left {now : Instant} {s t : Option Store} (h : Option.Rel (Store.Alike now) s t)
    (r : Reclaimer) (passage : Passage) (target : Nat) :
    Option.Rel (Store.Alike now) (r.pass passage target now s).store t := by
  unfold Reclaimer.pass
  by_cases hfinished : r.finished = true
  · rw [if_pos hfinished]
    exact h
  · rw [if_neg hfinished]
    cases h with
    | none =>
      dsimp only
      split <;> exact .none
    | some h => exact .some (h.passes_left _)

/-- **Passes over one of two stores keep the sessions alike.** -/
theorem step_left (h : Alike s t) {command : Command} (hupkeep : command.isUpkeep = true) :
    Alike (s.step command).1 t := by
  obtain ⟨clock, store, elapsed, reclaimer⟩ := s
  obtain ⟨clock', store', elapsed', reclaimer'⟩ := t
  obtain ⟨hclock, hstore⟩ := h
  dsimp only at hclock hstore
  cases command with
  | reclaim =>
    cases hstore with
    | none => exact ⟨hclock, .none⟩
    | some h => exact ⟨hclock, .some h.reclaimed_left⟩
  | spawn interval =>
    cases hstore with
    | none => exact ⟨hclock, .none⟩
    | some h =>
      simp only [Session.step, stepStore]
      split <;> exact ⟨hclock, .some h⟩
  | elapse passage length =>
    cases reclaimer with
    | none => exact ⟨hclock, hstore⟩
    | some r => exact ⟨hclock, pass_left hstore r passage (elapsed + length.nanoseconds)⟩
  | shutdown => cases reclaimer <;> exact ⟨hclock, hstore⟩
  | dropReclaimer => exact ⟨hclock, hstore⟩
  | _ => simp [Command.isUpkeep] at hupkeep

/-- Two sessions that are alike decide alike. -/
theorem answer_eq (h : Alike s t) {command : Command} (hdecides : command.decides = true) :
    (s.step command).2.1 = (t.step command).2.1 := by
  obtain ⟨clock, store, elapsed, reclaimer⟩ := s
  obtain ⟨clock', store', elapsed', reclaimer'⟩ := t
  obtain ⟨hclock, hstore⟩ := h
  dsimp only at hclock hstore
  subst hclock
  cases command with
  | allow id =>
    cases hstore with
    | none => rfl
    | some h => exact congrArg Answer.decision (h.answer_eq id)
  | allowMany id n =>
    cases hstore with
    | none => rfl
    | some h => exact congrArg Answer.admitted (h.admitted_eq id n)
  | _ => simp [Command.decides] at hdecides

end Alike

/-- Upkeep can be left out of a run whose clock never moves back. -/
theorem omission_isUpkeep :
    Omission Command.isUpkeep Command.decides
      fun commands s t => Alike s t ∧ NeverBack s.clock commands where
  left := by
    intro s t command rest ⟨h, hforward⟩ hupkeep
    refine ⟨h.step_left hupkeep, ?_⟩
    rw [step_clock]
    exact hforward.2
  both := by
    intro s t command rest ⟨h, hforward⟩ hupkeep
    refine ⟨h.step hupkeep hforward.1, ?_⟩
    rw [step_clock]
    exact hforward.2
  answer := by
    intro s t command rest ⟨h, _⟩ hdecides
    exact h.answer_eq hdecides
  silent := by
    intro command hupkeep
    cases command with
    | reclaim | spawn _ | elapse _ _ | shutdown | dropReclaimer => rfl
    | _ => simp [Command.isUpkeep] at hupkeep

/-- A session whose idle period fills a bucket is alike to itself. -/
theorem Over.alike {limits : Limits} {s : Session} (h : s.Over limits)
    (huncapped : limits.maxVisitors = none) (hrefills : limits.Refills) : Alike s s := by
  refine ⟨rfl, ?_⟩
  cases hs : s.store with
  | none => exact .none
  | some store =>
    have hreachable := h store hs
    have hlimits := hreachable.limits_eq
    refine .some ⟨rfl, ?_, ?_, hreachable.sound, hreachable.sound, fun _ _ _ => rfl⟩
    · rw [Store.Uncapped, hlimits, huncapped]
    · rw [hlimits]
      exact hrefills

/-- **Passes go unnoticed.**  Where the store has no cap, the idle period fills a bucket and the
clock never moves back, two runs that differ only in their passes decide everything alike. -/
theorem decisions_eq_of_upkeep {limits : Limits} (huncapped : limits.maxVisitors = none)
    (hrefills : limits.Refills) {s : Session} (hover : s.Over limits)
    {commands others : List Command} (hforward : NeverBack s.clock commands)
    (hsame : commands.filter (fun command => !command.isUpkeep) =
      others.filter fun command => !command.isUpkeep) :
    s.decisions commands = s.decisions others := by
  have halike := hover.alike huncapped hrefills
  have hkeep : ∀ (command : Command) (now : Instant), (!command.isUpkeep) = false →
      command.clockAfter now = now := by
    intro command now h
    exact Command.clockAfter_of_isUpkeep (by simpa using h) now
  have hothers : NeverBack s.clock others := by
    rw [← neverBack_filter hkeep, ← hsame, neverBack_filter hkeep]
    exact hforward
  -- Both runs are compared with the one that makes no pass at all.
  calc s.decisions commands
      = s.decisions (commands.filter fun command => !command.isUpkeep) :=
        omission_isUpkeep.transcript_eq ⟨halike, hforward⟩
    _ = s.decisions (others.filter fun command => !command.isUpkeep) := by rw [hsame]
    _ = s.decisions others := (omission_isUpkeep.transcript_eq ⟨halike, hothers⟩).symm

/-- A pass by hand and the passes of a reclaimer drop a visitor that comes back. -/
theorem decisions_eq_of_upkeep_of_two_passes :
    let limits : Limits := .oneASecond
    let commands : List Command :=
      [.allow "alice", .spawn .zero, .advanceClock 61000000000,
        .elapse .running (.ofSeconds 60), .allow "alice", .advanceClock 61000000000, .reclaim,
        .allowMany "alice" 2]
    let others : List Command :=
      [.allow "alice", .advanceClock 61000000000, .allow "alice", .advanceClock 61000000000,
        .allowMany "alice" 2]
    limits.maxVisitors = none ∧ limits.Refills ∧ (start limits .epoch).Over limits ∧
      NeverBack (start limits .epoch).clock commands ∧
      (start limits .epoch).decisions commands = (start limits .epoch).decisions others := by
  intro limits commands others
  have hrefills : limits.Refills := by decide +kernel
  have hforward : NeverBack (start limits .epoch).clock commands := by decide
  exact ⟨rfl, hrefills, over_start limits .epoch, hforward,
    decisions_eq_of_upkeep rfl hrefills (over_start limits .epoch) hforward rfl⟩

end Session

end Admission
