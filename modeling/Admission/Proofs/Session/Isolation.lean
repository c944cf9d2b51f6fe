import Admission.Proofs.Session.Runs
import Mathlib.Data.Option.Basic

/-!
# Isolation of identifiers

What a session says about one identifier does not depend on the others.  Two stores agree on an
identifier when they have the same limits, no cap, and the same visitor for it, whoever else they
track; every command keeps that agreement, and a command that admits somebody else keeps it even
when only one of the two sessions runs it.  So the admissions of all other identifiers can be
taken out of a run, and what it says about the one that is left stays the same, bit for bit.
-/

namespace Admission

namespace Store

/-- Two uncapped stores that one identifier cannot tell apart. -/
structure AgreeOn (id : String) (s t : Store) : Prop where
  limits : s.limits = t.limits
  uncapped : s.Uncapped
  visitor : s.visitor? id = t.visitor? id

namespace AgreeOn

variable {id : String} {s t : Store}

theorem uncapped_right (h : AgreeOn id s t) : t.Uncapped :=
  h.uncapped.congr h.limits

theorem served_eq (h : AgreeOn id s t) (now : Instant) : s.served id now = t.served id now :=
  served_congr h.limits h.visitor

/-- The identifier gets the same answer. -/
theorem answer_eq (h : AgreeOn id s t) (now : Instant) :
    (s.allow id now).answer = (t.allow id now).answer := by
  rw [(allow_of_served (h.uncapped.refused_eq_none id) now).1,
    (allow_of_served (h.uncapped_right.refused_eq_none id) now).1, h.served_eq now]

theorem allow (h : AgreeOn id s t) (other : String) (now : Instant) :
    AgreeOn id (s.allow other now).state (t.allow other now).state where
  limits := by rw [allow_limits, allow_limits, h.limits]
  uncapped := by rw [Uncapped, allow_limits, h.uncapped]
  visitor := by
    by_cases hid : id = other
    · subst hid
      rw [visitor?_allow_self (h.uncapped.refused_eq_none id),
        visitor?_allow_self (h.uncapped_right.refused_eq_none id), h.served_eq now]
    · rw [visitor?_allow_other s hid, visitor?_allow_other t hid, h.visitor]

/-- Somebody else may be admitted on one side only. -/
theorem allow_left (h : AgreeOn id s t) {other : String} (hother : other ≠ id) (now : Instant) :
    AgreeOn id (s.allow other now).state t where
  limits := by rw [allow_limits, h.limits]
  uncapped := by rw [Uncapped, allow_limits, h.uncapped]
  visitor := by rw [visitor?_allow_other s hother.symm, h.visitor]

theorem allowMany (h : AgreeOn id s t) (other : String) (now : Instant) (n : Nat) :
    AgreeOn id (s.allowMany other now n).2 (t.allowMany other now n).2 :=
  allowMany_rel (fun _ _ h => h.allow other now) h n

/-- Of many requests the same number is admitted. -/
theorem admitted_eq (h : AgreeOn id s t) (now : Instant) (n : Nat) :
    (s.allowMany id now n).1 = (t.allowMany id now n).1 :=
  admitted_eq_of_rel (fun _ _ h => h.allow id now) (fun _ _ h => h.answer_eq now) h n

theorem allowMany_left (h : AgreeOn id s t) {other : String} (hother : other ≠ id)
    (now : Instant) (n : Nat) : AgreeOn id (s.allowMany other now n).2 t := by
  induction n generalizing s with
  | zero => exact h
  | succ n ih => exact ih (h.allow_left hother now)

theorem reclaimed (h : AgreeOn id s t) (now : Instant) :
    AgreeOn id (s.reclaimed now) (t.reclaimed now) where
  limits := h.limits
  uncapped := h.uncapped
  visitor := by rw [visitor?_reclaimed, visitor?_reclaimed, h.visitor, h.limits]

theorem passes (h : AgreeOn id s t) (now : Instant) (n : Nat) :
    AgreeOn id (Reclaimer.passes s now n).1 (Reclaimer.passes t now n).1 := by
  induction n generalizing s t with
  | zero => exact h
  | succ n ih => exact ih (h.reclaimed now)

theorem clear (h : AgreeOn id s t) : AgreeOn id s.clear t.clear :=
  ⟨h.limits, h.uncapped, rfl⟩

theorem contains_eq (h : AgreeOn id s t) : s.contains id = t.contains id := by
  rw [contains, contains, h.visitor]

end AgreeOn

end Store

/-- Whether a command asks about an identifier. -/
def Command.concerns (id : String) : Command → Bool
  | .allow other | .allowMany other _ | .contains other | .visitor other => other == id
  | _ => false

/-- Whether a command admits another identifier than the given one. -/
def Command.admitsOther (id : String) : Command → Bool
  | .allow other | .allowMany other _ => other != id
  | _ => false

namespace Session

/-- Two sessions that differ in what their stores know of other identifiers alone. -/
structure AgreeOn (id : String) (s t : Session) : Prop where
  clock : s.clock = t.clock
  elapsed : s.elapsed = t.elapsed
  reclaimer : s.reclaimer = t.reclaimer
  store : Option.Rel (Store.AgreeOn id) s.store t.store

theorem agreeOn_refl {s : Session} (h : s.Uncapped) (id : String) : AgreeOn id s s := by
  refine ⟨rfl, rfl, rfl, ?_⟩
  cases hs : s.store with
  | none => exact .none
  | some store => exact .some ⟨rfl, h store hs, rfl⟩

/-- The ticks of a reclaimer leave two stores that agreed in agreement. -/
theorem pass_agreeOn {id : String} {s t : Option Store} (h : Option.Rel (Store.AgreeOn id) s t)
    (r : Reclaimer) (passage : Passage) (target : Nat) (clock : Instant) :
    (r.pass passage target clock s).reclaimer = (r.pass passage target clock t).reclaimer ∧
      Option.Rel (Store.AgreeOn id) (r.pass passage target clock s).store
        (r.pass passage target clock t).store := by
  unfold Reclaimer.pass
  by_cases hfinished : r.finished = true
  · simp only [if_pos hfinished]
    exact ⟨trivial, h⟩
  · simp only [if_neg hfinished]
    cases h with
    | none =>
      refine ⟨rfl, ?_⟩
      dsimp only
      split <;> exact .none
    | some h => exact ⟨rfl, .some (h.passes clock _)⟩

namespace AgreeOn

variable {id : String} {s t : Session}

/-- **Every command keeps two sessions in agreement.** -/
theorem step (h : AgreeOn id s t) (command : Command) :
    AgreeOn id (s.step command).1 (t.step command).1 := by
  obtain ⟨clock, store, elapsed, reclaimer⟩ := s
  obtain ⟨clock', store', elapsed', reclaimer'⟩ := t
  obtain ⟨hclock, helapsed, hreclaimer, hstore⟩ := h
  dsimp only at hclock helapsed hreclaimer hstore
  subst hclock helapsed hreclaimer
  cases command with
  | setClock now => exact ⟨rfl, rfl, rfl, hstore⟩
  | advanceClock nanoseconds =>
    simp only [Session.step]
    split <;> exact ⟨rfl, rfl, rfl, hstore⟩
  | elapse passage length =>
    cases reclaimer with
    | none => exact ⟨rfl, rfl, rfl, hstore⟩
    | some r =>
      obtain ⟨hr, hs⟩ :=
        pass_agreeOn hstore r passage (elapsed + length.nanoseconds) clock
      exact ⟨rfl, rfl, congrArg some hr, hs⟩
  | isFinished | interval => exact ⟨rfl, rfl, rfl, hstore⟩
  | shutdown => cases reclaimer <;> exact ⟨rfl, rfl, rfl, hstore⟩
  | dropReclaimer => exact ⟨rfl, rfl, rfl, hstore⟩
  | dropStore => exact ⟨rfl, rfl, rfl, .none⟩
  | allow other =>
    cases hstore with
    | none => exact ⟨rfl, rfl, rfl, .none⟩
    | some h => exact ⟨rfl, rfl, rfl, .some (h.allow other clock)⟩
  | allowMany other n =>
    cases hstore with
    | none => exact ⟨rfl, rfl, rfl, .none⟩
    | some h => exact ⟨rfl, rfl, rfl, .some (h.allowMany other clock n)⟩
  | reclaim =>
    cases hstore with
    | none => exact ⟨rfl, rfl, rfl, .none⟩
    | some h => exact ⟨rfl, rfl, rfl, .some (h.reclaimed clock)⟩
  | clear =>
    cases hstore with
    | none => exact ⟨rfl, rfl, rfl, .none⟩
    | some h => exact ⟨rfl, rfl, rfl, .some h.clear⟩
  | contains other | isEmpty | visitor other =>
    cases hstore with
    | none => exact ⟨rfl, rfl, rfl, .none⟩
    | some h => exact ⟨rfl, rfl, rfl, .some h⟩
  | spawn interval =>
    cases hstore with
    | none => exact ⟨rfl, rfl, rfl, .none⟩
    | some h =>
      simp only [Session.step, stepStore, h.limits]
      split <;> exact ⟨rfl, rfl, rfl, .some h⟩

/-- **A command that admits somebody else may be run on one side only.** -/
theorem step_left (h : AgreeOn id s t) {command : Command}
    (hother : command.admitsOther id = true) : AgreeOn id (s.step command).1 t := by
  obtain ⟨clock, store, elapsed, reclaimer⟩ := s
  obtain ⟨clock', store', elapsed', reclaimer'⟩ := t
  obtain ⟨hclock, helapsed, hreclaimer, hstore⟩ := h
  dsimp only at hclock helapsed hreclaimer hstore
  cases command with
  | allow other =>
    have hne : other ≠ id := by simpa [Command.admitsOther] using hother
    cases hstore with
    | none => exact ⟨hclock, helapsed, hreclaimer, .none⟩
    | some h => exact ⟨hclock, helapsed, hreclaimer, .some (h.allow_left hne clock)⟩
  | allowMany other n =>
    have hne : other ≠ id := by simpa [Command.admitsOther] using hother
    cases hstore with
    | none => exact ⟨hclock, helapsed, hreclaimer, .none⟩
    | some h => exact ⟨hclock, helapsed, hreclaimer, .some (h.allowMany_left hne clock n)⟩
  | _ => simp [Command.admitsOther] at hother

/-- Two sessions in agreement say the same about the identifier. -/
theorem answer_eq (h : AgreeOn id s t) {command : Command}
    (hconcerns : command.concerns id = true) : (s.step command).2.1 = (t.step command).2.1 := by
  obtain ⟨clock, store, elapsed, reclaimer⟩ := s
  obtain ⟨clock', store', elapsed', reclaimer'⟩ := t
  obtain ⟨hclock, helapsed, hreclaimer, hstore⟩ := h
  dsimp only at hclock helapsed hreclaimer hstore
  subst hclock helapsed hreclaimer
  cases command with
  | allow other =>
    obtain rfl : other = id := by simpa [Command.concerns] using hconcerns
    cases hstore with
    | none => rfl
    | some h => exact congrArg Answer.decision (h.answer_eq clock)
  | allowMany other n =>
    obtain rfl : other = id := by simpa [Command.concerns] using hconcerns
    cases hstore with
    | none => rfl
    | some h => exact congrArg Answer.admitted (h.admitted_eq clock n)
  | contains other =>
    obtain rfl : other = id := by simpa [Command.concerns] using hconcerns
    cases hstore with
    | none => rfl
    | some h => exact congrArg Answer.contains h.contains_eq
  | visitor other =>
    obtain rfl : other = id := by simpa [Command.concerns] using hconcerns
    cases hstore with
    | none => rfl
    | some h => simp only [Session.step, stepStore, h.visitor]
  | _ => simp [Command.concerns] at hconcerns

/-- A command that admits somebody else does not ask about the identifier. -/
theorem concerns_eq_false {command : Command} (hother : command.admitsOther id = true) :
    command.concerns id = false := by
  cases command with
  | allow other | allowMany other n =>
    simpa [Command.admitsOther, Command.concerns] using hother
  | _ => simp [Command.admitsOther] at hother

theorem visitor?_eq (h : AgreeOn id s t) : s.visitor? id = t.visitor? id := by
  obtain ⟨clock, store, elapsed, reclaimer⟩ := s
  obtain ⟨clock', store', elapsed', reclaimer'⟩ := t
  obtain ⟨-, -, -, hstore⟩ := h
  dsimp only at hstore
  cases hstore with
  | none => rfl
  | some h => exact congrArg some h.visitor

end AgreeOn

/-- The admissions of others can be left out. -/
theorem omission_admitsOther (id : String) :
    Omission (Command.admitsOther id) (Command.concerns id) fun _ => AgreeOn id where
  left := fun h hother => h.step_left hother
  both := fun h _ => h.step _
  answer := fun h hconcerns => h.answer_eq hconcerns
  silent := AgreeOn.concerns_eq_false

/-- **Isolation of identifiers.**  On a store without a cap, the admissions of all other
identifiers can be taken out of a run: every decision on the identifier and every question
about it is answered as before, and its visitor ends up the same, bit for bit. -/
theorem transcript_without_others {s : Session} (h : s.Uncapped) (id : String)
    (commands : List Command) :
    (s.transcript commands).filter (fun entry => entry.1.concerns id) =
        (s.transcript (commands.filter fun command => !command.admitsOther id)).filter
          (fun entry => entry.1.concerns id) ∧
      (s.run commands).1.visitor? id =
        (s.run (commands.filter fun command => !command.admitsOther id)).1.visitor? id := by
  have hagree := agreeOn_refl h id
  have homission := omission_admitsOther id
  exact ⟨homission.transcript_eq hagree, (homission.run hagree).visitor?_eq⟩

/-- Somebody else comes twice, and a pass over the store lies between. -/
theorem transcript_without_others_of_two_visitors :
    (start .oneASecond .epoch).Uncapped ∧
      let commands : List Command :=
        [.allow "alice", .allow "bob", .advanceClock 61000000000, .reclaim, .allow "bob",
          .contains "alice", .allow "alice"]
      ((start .oneASecond .epoch).transcript commands).filter
          (fun entry => entry.1.concerns "alice") =
        ((start .oneASecond .epoch).transcript
          [.allow "alice", .advanceClock 61000000000, .reclaim, .contains "alice",
            .allow "alice"]).filter (fun entry => entry.1.concerns "alice") := by
  have h : (start .oneASecond .epoch).Uncapped := uncapped_start rfl .epoch
  exact ⟨h, (transcript_without_others h "alice" _).1⟩

end Session

end Admission
