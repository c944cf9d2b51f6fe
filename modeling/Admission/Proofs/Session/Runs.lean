import Admission.Session
import Admission.Proofs.Store.Soundness

/-!
# Runs of a session

What is said about runs of a session often compares two of them: one that is told everything,
and one that some of the commands are kept from.  Where a relation between the two sessions
survives each command, the answers that it fixes are the same in both runs.

* `Session.transcript` — the commands of a run with their answers;
* `Session.makes_step` — what a command can make of the store;
* `Makes.visitor?_of_requests` — an identifier that a command does not ask about stays as it is, or
  is forgotten;
* `Session.Over` — the store was made by decisions, passes and clearing, and stays so;
* `Session.NeverBack` — the clock moves forward along a run, if it moves;
* `Session.step_of_consults`, `elapse_of_finished`, `elapse_of_live`, `elapse_of_orphaned` — what
  commands and passing time do to the reclaimer;
* `Session.Omission` — a relation that survives the commands, left out or not;
* `Omission.transcript_eq`, `Omission.run` — what follows for the runs, by induction.
-/

namespace Admission

/-- The passes of a reclaimer are passes. -/
theorem Store.Reachable.passes {limits : Limits} {s : Store} (h : Reachable limits s)
    (clock : Instant) (n : Nat) : Reachable limits (Reclaimer.passes s clock n).1 := by
  induction n generalizing s with
  | zero => exact h
  | succ n ih => exact ih (h.reclaim clock)

/-- Passes leave nobody that was not there. -/
theorem Store.visitor?_of_passes {s : Store} {clock : Instant} {n : Nat} {id : String}
    {v : Visitor} (h : (Reclaimer.passes s clock n).1.visitor? id = some v) :
    s.visitor? id = some v := by
  induction n generalizing s with
  | zero => exact h
  | succ n ih =>
    have hfirst : (s.reclaimed clock).visitor? id = some v := ih h
    rw [Store.visitor?_reclaimed, Option.filter_eq_some_iff] at hfirst
    exact hfirst.1

/-- A reclaimer that can be scheduled starts with its first tick a period away. -/
theorem Reclaimer.eq_of_spawn {limits : Limits} {requested : Duration} {now : Nat} {r : Reclaimer}
    (h : spawn limits requested now = .ok r) :
    r = ⟨.starting (effectiveInterval limits requested)
      (effectiveInterval_pos limits requested) now, false⟩ := by
  unfold spawn at h
  dsimp only at h
  split at h
  · exact (Except.ok.inj h).symm
  · cases h

/-- Whether a command is the business of the clock or the store alone, or only asks. -/
def Command.consults : Command → Bool
  | .spawn _ | .elapse _ _ | .shutdown | .dropReclaimer | .dropStore => false
  | _ => true

/-- How many decisions on an identifier a command asks for. -/
def Command.requests (id : String) : Command → Nat
  | .allow other => if other = id then 1 else 0
  | .allowMany other count => if other = id then count else 0
  | _ => 0

theorem Command.requests_eq_zero {id : String} {command : Command} (hallow : command ≠ .allow id)
    (hmany : ∀ count, command ≠ .allowMany id count) : command.requests id = 0 := by
  cases command with
  | allow other =>
    refine if_neg fun hother => hallow ?_
    rw [hother]
  | allowMany other count =>
    refine if_neg fun hother => hmany count ?_
    rw [hother]
  | _ => rfl

/-- What the clock shows after a command. -/
def Command.clockAfter (now : Instant) : Command → Instant
  | .setClock reading => reading
  | .advanceClock nanoseconds => (now.advance? nanoseconds).getD now
  | _ => now

namespace Session

/-- The commands of a run with their answers. -/
def transcript (s : Session) (commands : List Command) : List (Command × Answer) :=
  commands.zip (s.run commands).2

theorem run_cons (s : Session) (command : Command) (rest : List Command) :
    (s.run (command :: rest)).1 = ((s.step command).1.run rest).1 := rfl

theorem transcript_cons (s : Session) (command : Command) (rest : List Command) :
    s.transcript (command :: rest) =
      (command, (s.step command).2.1) :: (s.step command).1.transcript rest := rfl

/-- What the store, if it is still there, keeps of an identifier. -/
def visitor? (s : Session) (id : String) : Option (Option Visitor) :=
  s.store.map fun store => store.visitor? id

/-- A session whose store, if it has one, has no cap. -/
def Uncapped (s : Session) : Prop :=
  ∀ store, s.store = some store → store.Uncapped

theorem uncapped_start {limits : Limits} (h : limits.maxVisitors = none) (now : Instant) :
    (start limits now).Uncapped := by
  intro store hstore
  cases hstore
  exact h

/-! ## The store -/

/-- What a command can make of the store that it finds, at a reading of the clock. -/
inductive Makes (store : Store) (clock : Instant) : Command → Store → Prop
  | allow (id : String) : Makes store clock (.allow id) (store.allow id clock).state
  | allowMany (id : String) (count : Nat) :
      Makes store clock (.allowMany id count) (store.allowMany id clock count).2
  | passes (command : Command) (count : Nat) :
      Makes store clock command (Reclaimer.passes store clock count).1
  | clear : Makes store clock .clear store.clear

/-- **A command makes one of these of the store**, unless it drops it.  To leave it alone is to make
no pass. -/
theorem makes_step {s : Session} {store : Store} (hstore : s.store = some store)
    {command : Command} (hdrop : command ≠ .dropStore) :
    ∃ t, (s.step command).1.store = some t ∧ Makes store s.clock command t := by
  obtain ⟨clock, _, elapsed, reclaimer⟩ := s
  obtain rfl := hstore
  have hsame : ∀ command, Makes store clock command store := fun command => .passes command 0
  cases command with
  | allow id => exact ⟨_, rfl, .allow id⟩
  | allowMany id count => exact ⟨_, rfl, .allowMany id count⟩
  | reclaim => exact ⟨_, rfl, .passes .reclaim 1⟩
  | clear => exact ⟨_, rfl, .clear⟩
  | setClock _ | isFinished | interval | dropReclaimer | contains _ | isEmpty | visitor _ =>
    exact ⟨_, rfl, hsame _⟩
  | advanceClock nanoseconds =>
    simp only [step]
    split <;> exact ⟨_, rfl, hsame _⟩
  | shutdown => cases reclaimer <;> exact ⟨_, rfl, hsame _⟩
  | spawn interval =>
    simp only [step, stepStore]
    split <;> exact ⟨_, rfl, hsame _⟩
  | elapse passage length =>
    cases reclaimer with
    | none => exact ⟨_, rfl, hsame _⟩
    | some r =>
      simp only [step, elapse, Reclaimer.pass]
      split
      · exact ⟨_, rfl, hsame _⟩
      · exact ⟨_, rfl, .passes _ _⟩
  | dropStore => exact absurd rfl hdrop

namespace Makes

variable {store t : Store} {clock : Instant} {command : Command}

theorem reachable {limits : Limits} (h : Makes store clock command t)
    (hstore : Store.Reachable limits store) : Store.Reachable limits t := by
  cases h with
  | allow id => exact hstore.allow id clock
  | allowMany id count => exact hstore.allowMany id clock count
  | passes _ count => exact hstore.passes clock count
  | clear => exact hstore.clear

/-- **An identifier that a command does not ask about** stays as it is, or is forgotten. -/
theorem visitor?_of_requests (h : Makes store clock command t) {id : String}
    (hrequests : command.requests id = 0) {v : Visitor} (hv : t.visitor? id = some v) :
    store.visitor? id = some v := by
  cases h with
  | allow other =>
    have hother : id ≠ other := by
      rintro rfl
      simp [Command.requests] at hrequests
    rwa [Store.visitor?_allow_other store hother] at hv
  | allowMany other count =>
    by_cases hother : other = id
    · obtain rfl : count = 0 := by simpa [Command.requests, hother] using hrequests
      exact hv
    · rwa [Store.visitor?_allowMany_other store (Ne.symm hother)] at hv
  | passes _ count => exact Store.visitor?_of_passes hv
  | clear => cases hv

end Makes

/-- A store that was dropped does not come back. -/
theorem step_store_none {s : Session} (h : s.store = none) (command : Command) :
    (s.step command).1.store = none := by
  obtain ⟨clock, _, elapsed, reclaimer⟩ := s
  obtain rfl := h
  cases command with
  | advanceClock nanoseconds =>
    simp only [step]
    split <;> rfl
  | shutdown => cases reclaimer <;> rfl
  | elapse passage length =>
    cases reclaimer with
    | none => rfl
    | some r =>
      simp only [step, elapse, Reclaimer.pass]
      split
      · rfl
      · split <;> rfl
  | _ => rfl

/-- A session over a store that was made by decisions, passes and clearing. -/
def Over (limits : Limits) (s : Session) : Prop :=
  ∀ store, s.store = some store → Store.Reachable limits store

theorem over_start (limits : Limits) (now : Instant) : (start limits now).Over limits := by
  intro store hstore
  obtain rfl := Option.some.inj hstore
  exact .empty

/-- Every command makes decisions, passes or clearings, or leaves the store alone. -/
theorem Over.step {limits : Limits} {s : Session} (h : s.Over limits) (command : Command) :
    (s.step command).1.Over limits := by
  intro t ht
  cases hs : s.store with
  | none =>
    rw [step_store_none hs] at ht
    cases ht
  | some store =>
    by_cases hdrop : command = .dropStore
    · subst hdrop
      cases ht
    · obtain ⟨made, hmade, hmakes⟩ := makes_step hs hdrop
      obtain rfl := Option.some.inj (hmade.symm.trans ht)
      exact hmakes.reachable (h store hs)

theorem Over.run {limits : Limits} {s : Session} (h : s.Over limits) (commands : List Command) :
    (s.run commands).1.Over limits := by
  induction commands generalizing s with
  | nil => exact h
  | cons command rest ih => exact ih (h.step command)

/-! ## The clock -/

@[simp] theorem step_clock (s : Session) (command : Command) :
    (s.step command).1.clock = command.clockAfter s.clock := by
  obtain ⟨clock, store, elapsed, reclaimer⟩ := s
  cases command with
  | setClock reading => rfl
  | advanceClock nanoseconds =>
    simp only [step, Command.clockAfter]
    cases clock.advance? nanoseconds <;> rfl
  | elapse passage length => cases reclaimer <;> rfl
  | isFinished | interval | dropReclaimer | dropStore => rfl
  | shutdown => cases reclaimer <;> rfl
  | allow _ | allowMany _ _ | reclaim | contains _ | isEmpty | clear | visitor _ =>
    cases store <;> rfl
  | spawn period =>
    cases store with
    | none => rfl
    | some store =>
      simp only [step, stepStore]
      split <;> rfl

/-- The clock does not move back along a list of commands. -/
def NeverBack : Instant → List Command → Prop
  | _, [] => True
  | now, command :: rest =>
    now.sinceEpoch ≤ (command.clockAfter now).sinceEpoch ∧
      NeverBack (command.clockAfter now) rest

instance decidableNeverBack : ∀ now commands, Decidable (NeverBack now commands)
  | _, [] => inferInstanceAs (Decidable True)
  | now, command :: rest =>
    have := decidableNeverBack (command.clockAfter now) rest
    inferInstanceAs (Decidable (_ ∧ _))

/-- Commands that leave the clock alone may be left out or put in. -/
theorem neverBack_filter {keep : Command → Bool}
    (hkeep : ∀ command now, keep command = false → command.clockAfter now = now)
    (now : Instant) (commands : List Command) :
    NeverBack now (commands.filter keep) ↔ NeverBack now commands := by
  induction commands generalizing now with
  | nil => exact Iff.rfl
  | cons command rest ih =>
    cases hcommand : keep command with
    | true =>
      rw [List.filter_cons_of_pos hcommand]
      exact and_congr Iff.rfl (ih _)
    | false =>
      rw [List.filter_cons_of_neg (by simp [hcommand]), ih, NeverBack,
        hkeep command now hcommand]
      exact (and_iff_right (Int.le_refl _)).symm

/-! ## The reclaimer -/

/-- A command that is the business of the clock or the store alone leaves the reclaimer and
virtual time as they are, and the store in its place. -/
theorem step_of_consults (s : Session) {command : Command}
    (h : command.consults = true) :
    (s.step command).1.elapsed = s.elapsed ∧ (s.step command).1.reclaimer = s.reclaimer ∧
      (s.step command).1.store.isSome = s.store.isSome := by
  obtain ⟨clock, store, elapsed, reclaimer⟩ := s
  cases command with
  | setClock _ | isFinished | interval => exact ⟨rfl, rfl, rfl⟩
  | advanceClock nanoseconds =>
    simp only [step]
    cases clock.advance? nanoseconds <;> exact ⟨rfl, rfl, rfl⟩
  | allow _ | allowMany _ _ | reclaim | contains _ | isEmpty | clear | visitor _ =>
    cases store <;> exact ⟨rfl, rfl, rfl⟩
  | spawn _ | elapse _ _ | shutdown | dropReclaimer | dropStore => cases h

section

variable {s : Session} {ticker : Ticker}

/-- A reclaimer whose loop has ended does nothing while time passes. -/
theorem elapse_of_finished (h : ∀ r, s.reclaimer = some r → r.finished = true)
    (passage : Passage) (length : Duration) :
    s.elapse passage length =
      ({ s with elapsed := s.elapsed + length.nanoseconds }, .passes 0, []) := by
  obtain ⟨clock, store, elapsed, reclaimer⟩ := s
  cases reclaimer with
  | none => rfl
  | some r =>
    have hfinished := h r rfl
    simp only [elapse, Reclaimer.pass, hfinished, if_true]

/-- A reclaimer whose loop goes on makes the passes of its ticker over the store. -/
theorem elapse_of_live {store : Store} (hreclaimer : s.reclaimer = some ⟨ticker, false⟩)
    (hstore : s.store = some store) (passage : Passage) (length : Duration) :
    let target := s.elapsed + length.nanoseconds
    let ticks := ticker.catchUp passage target
    let passed := Reclaimer.passes store s.clock ticks.1.length
    s.elapse passage length =
      ({ s with elapsed := target, store := some passed.1, reclaimer := some ⟨ticks.2, false⟩ },
        .passes ticks.1.length, passed.2) := by
  simp only [elapse, hreclaimer, hstore, Reclaimer.pass, Bool.false_eq_true, if_false]

/-- A reclaimer whose store is gone ends at its next tick. -/
theorem elapse_of_orphaned (hreclaimer : s.reclaimer = some ⟨ticker, false⟩)
    (hstore : s.store = none) (passage : Passage) (length : Duration) :
    let target := s.elapsed + length.nanoseconds
    s.elapse passage length =
      ({ s with elapsed := target, reclaimer := some ⟨ticker, decide (ticker.due ≤ target)⟩ },
        .passes 0, if ticker.due ≤ target then [.reclaimerOrphaned] else []) := by
  intro target
  by_cases hdue : ticker.due ≤ s.elapsed + length.nanoseconds
  · simp [elapse, hreclaimer, hstore, Reclaimer.pass, hdue, target]
  · simp [elapse, hreclaimer, hstore, Reclaimer.pass, hdue, target]

end

/-! ## Leaving commands out -/

/-- A relation between a session that is told everything, with what it is still to be told, and
a session that some commands are kept from.  Every command keeps it, whether it is left out or
not, and it fixes the answers that are looked at. -/
structure Omission (omitted shown : Command → Bool)
    (R : List Command → Session → Session → Prop) : Prop where
  left : ∀ {s t command rest}, R (command :: rest) s t → omitted command = true →
    R rest (s.step command).1 t
  both : ∀ {s t command rest}, R (command :: rest) s t → omitted command = false →
    R rest (s.step command).1 (t.step command).1
  answer : ∀ {s t command rest}, R (command :: rest) s t → shown command = true →
    (s.step command).2.1 = (t.step command).2.1
  silent : ∀ {command}, omitted command = true → shown command = false

namespace Omission

variable {omitted shown : Command → Bool} {R : List Command → Session → Session → Prop}
  {s t : Session} {commands : List Command}

/-- **The run without the omitted commands shows the same answers.** -/
theorem transcript_eq (h : Omission omitted shown R) (hrel : R commands s t) :
    (s.transcript commands).filter (fun entry => shown entry.1) =
      (t.transcript (commands.filter fun command => !omitted command)).filter
        (fun entry => shown entry.1) := by
  induction commands generalizing s t with
  | nil => rfl
  | cons command rest ih =>
    cases homitted : omitted command with
    | true =>
      -- Only the left session runs the command, and its answer is not looked at.
      have hsilent := h.silent homitted
      rw [List.filter_cons_of_neg (by simp [homitted]), transcript_cons,
        List.filter_cons_of_neg (by simp [hsilent])]
      exact ih (h.left hrel homitted)
    | false =>
      have hrest := ih (h.both hrel homitted)
      rw [List.filter_cons_of_pos (by simp [homitted]), transcript_cons, transcript_cons]
      cases hshown : shown command with
      | true =>
        rw [List.filter_cons_of_pos (by simp [hshown]), List.filter_cons_of_pos (by simp [hshown]),
          h.answer hrel hshown, hrest]
      | false =>
        rw [List.filter_cons_of_neg (by simp [hshown]), List.filter_cons_of_neg (by simp [hshown])]
        exact hrest

/-- The two runs end in sessions that are still related. -/
theorem run (h : Omission omitted shown R) (hrel : R commands s t) :
    R [] (s.run commands).1 (t.run (commands.filter fun command => !omitted command)).1 := by
  induction commands generalizing s t with
  | nil => exact hrel
  | cons command rest ih =>
    cases homitted : omitted command with
    | true =>
      rw [List.filter_cons_of_neg (by simp [homitted]), run_cons]
      exact ih (h.left hrel homitted)
    | false =>
      rw [List.filter_cons_of_pos (by simp [homitted]), run_cons, run_cons]
      exact ih (h.both hrel homitted)

end Omission

end Session

end Admission
