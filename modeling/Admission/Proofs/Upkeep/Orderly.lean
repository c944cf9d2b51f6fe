import Admission.Proofs.Session.Runs
import Admission.Proofs.Upkeep.Loops
import Mathlib.Data.Set.Subsingleton

/-!
# What a session shows of its upkeep

Between two commands there is order: only the session holds the store, and the only loop that may
go on is the one of the handle, which has heard nothing and has nothing due.  Every command keeps
this order, and what it does to the store, the loops and the handle is what it does to a session
with at most one reclaimer.

* `Upkeep.Active` — a loop that goes on;
* `Upkeep.Orderly` — the order between two commands;
* `Upkeep.Mirrors` — what a command does, seen through the session, and who makes its passes;
* `Orderly.step`, `Orderly.run` — every command keeps the order, and so does every run.
-/

namespace Admission

namespace Upkeep

variable {favours : Nat → Loop → Bool} {u : Upkeep}

/-- A loop that was started and has not ended. -/
def Active (u : Upkeep) (i : Nat) : Prop :=
  ∃ l, u.loops[i]? = some l ∧ l.ended = false

/-- The order between two commands: nobody but the session holds the store, a loop that goes on
is the handle's and waits, and the handle is of a loop. -/
structure Orderly (u : Upkeep) : Prop where
  holders : u.shared.holders = u.owned.toNat
  waits : ∀ i l, u.loops[i]? = some l → l.ended = false → u.handle = some i ∧ l.Waits u.elapsed
  held : ∀ i, u.handle = some i → ∃ l, u.loops[i]? = some l

/-- What a command came to: the order is kept, the session shows it, and passes were made by the
active loop of the handle, over a store that the session holds. -/
structure Mirrors (u : Upkeep) (outcome : Upkeep × Answer × List Event)
    (shown : Session × Answer × List Event) : Prop where
  orderly : outcome.1.Orderly
  session : outcome.1.session = shown.1
  replies : outcome.2 = shown.2
  passes : ∃ made, outcome.1.passes = u.passes ++ made ∧
    ∀ pass ∈ made, u.handle = some pass.loop ∧ u.Active pass.loop ∧ u.owned = true

/-- A command that is the business of the clock or the store is theirs. -/
theorem step_of_consults {command : Command} (h : command.consults = true) :
    u.step favours command = u.consult command := by
  cases command with
  | spawn _ | elapse _ _ | shutdown | dropReclaimer | dropStore => cases h
  | _ => rfl

/-- A command that makes no pass. -/
theorem Mirrors.of_no_pass {outcome : Upkeep × Answer × List Event}
    {shown : Session × Answer × List Event} (horderly : outcome.1.Orderly)
    (hsession : outcome.1.session = shown.1) (hreplies : outcome.2 = shown.2)
    (hpasses : outcome.1.passes = u.passes) : u.Mirrors outcome shown where
  orderly := horderly
  session := hsession
  replies := hreplies
  passes := by
    refine ⟨[], hpasses.trans (List.append_nil _).symm, ?_⟩
    intro pass hpass
    cases hpass

theorem orderly_opening (limits : Limits) (now : Instant) : (opening limits now).Orderly where
  holders := rfl
  waits := by
    intro i l hl
    cases hl
  held := by
    intro i hi
    cases hi

theorem session_opening (limits : Limits) (now : Instant) :
    (opening limits now).session = Session.start limits now := rfl

/-- Where every loop has ended and there is no handle, order is a matter of the store. -/
theorem orderly_of_ended (hholders : u.shared.holders = u.owned.toNat)
    (hended : ∀ l ∈ u.loops, l.ended = true) (hhandle : u.handle = none) : u.Orderly where
  holders := hholders
  waits := by
    intro i l hl hactive
    have h := hended l (List.mem_of_getElem? hl)
    exact (Bool.false_ne_true (hactive.symm.trans h)).elim
  held := by
    intro i hi
    rw [hhandle] at hi
    cases hi

/-- Where one loop goes on and has the handle, order is a matter of the store and of that loop. -/
theorem orderly_of_one {i : Nat} {l : Loop} (hholders : u.shared.holders = u.owned.toNat)
    (hhandle : u.handle = some i) (hl : u.loops[i]? = some l)
    (hothers : OthersEnded u.loops i)
    (hwaits : l.ended = false → l.Waits u.elapsed) : u.Orderly where
  holders := hholders
  waits := by
    intro j m hm hactive
    by_cases hj : j = i
    · subst hj
      obtain rfl : l = m := Option.some.inj (hl.symm.trans hm)
      exact ⟨hhandle, hwaits hactive⟩
    · have hended := hothers j m hm hj
      exact (Bool.false_ne_true (hactive.symm.trans hended)).elim
  held := by
    intro j hj
    obtain rfl : i = j := Option.some.inj (hhandle.symm.trans hj)
    exact ⟨l, hl⟩

/-- While time passes and one loop goes on, what happens is what that loop does. -/
theorem mirrors_of_attended {i : Nat} {l : Loop} (hi : u.handle = some i)
    (hl : u.loops[i]? = some l) (hactive : l.ended = false)
    (hothers : OthersEnded u.loops i)
    {passage : Passage} {length : Duration} {attended : Loop.Attended}
    (hattended : l.attend (favours i) (opens u.elapsed (u.elapsed + length.nanoseconds) passage)
      (u.elapsed + length.nanoseconds) u.clock u.shared = attended)
    (hholders : attended.shared.holders = u.owned.toNat)
    (hwaits : attended.loop.ended = false →
      attended.loop.Waits (u.elapsed + length.nanoseconds))
    (hmoments : u.owned = false → attended.moments = [])
    (hshown : u.session.step (.elapse passage length) =
      (⟨u.clock, if u.owned then attended.shared.store? else none,
          u.elapsed + length.nanoseconds, some ⟨attended.loop.ticker, attended.loop.ended⟩⟩,
        .passes attended.moments.length, attended.events)) :
    u.Mirrors (u.step favours (.elapse passage length))
      (u.session.step (.elapse passage length)) := by
  have hbound : i < u.loops.length := (List.getElem?_eq_some_iff.1 hl).1
  have hset : (u.loops.set i attended.loop)[i]? = some attended.loop :=
    List.getElem?_set_self hbound
  have hstep : u.step favours (.elapse passage length) =
      ({ u with
          elapsed := u.elapsed + length.nanoseconds
          shared := attended.shared
          loops := u.loops.set i attended.loop
          passes := u.passes ++ attended.moments.map fun moment => ⟨i, moment⟩ },
        .passes attended.moments.length, attended.events) := by
    simp only [step, attend, attendAll_of_one hl hothers, Nat.zero_add, hattended,
      List.length_map]
  rw [hstep, hshown]
  refine ⟨orderly_of_one hholders hi hset (hothers.set _) hwaits, ?_, rfl, _, rfl, ?_⟩
  · simp only [session, hi, Option.bind_some, hset, Option.map_some]
  · intro pass hpass
    obtain ⟨moment, hmoment, rfl⟩ := List.mem_map.1 hpass
    refine ⟨hi, ⟨l, hl, hactive⟩, ?_⟩
    by_contra howned
    rw [hmoments (Bool.eq_false_iff.2 howned)] at hmoment
    cases hmoment

namespace Orderly

/-- The loops that the handle is not of have ended. -/
theorem othersEnded (h : u.Orderly) {i : Nat} (hi : u.handle = some i) :
    OthersEnded u.loops i := by
  intro j m hm hne
  by_contra hgoes
  obtain ⟨hj, -⟩ := h.waits j m hm (Bool.eq_false_iff.2 hgoes)
  exact hne (Option.some.inj (hj.symm.trans hi))

/-- Either every loop has ended, or the one of the handle goes on. -/
theorem ended_or_one (h : u.Orderly) :
    (∀ l ∈ u.loops, l.ended = true) ∨
      ∃ i l, u.handle = some i ∧ u.loops[i]? = some l ∧ l.Waits u.elapsed := by
  by_cases hall : ∀ l ∈ u.loops, l.ended = true
  · exact .inl hall
  · push Not at hall
    obtain ⟨l, hmem, hactive⟩ := hall
    obtain ⟨i, hl⟩ := List.getElem?_of_mem hmem
    obtain ⟨hi, hwaits⟩ := h.waits i l hl (Bool.eq_false_iff.2 hactive)
    exact .inr ⟨i, l, hi, hl, hwaits⟩

/-- **At most one loop is active.** -/
theorem subsingleton_active (h : u.Orderly) : {i | u.Active i}.Subsingleton := by
  rintro i ⟨l, hl, hactive⟩ j ⟨m, hm, hgoes⟩
  obtain ⟨hi, -⟩ := h.waits i l hl hactive
  obtain ⟨hj, -⟩ := h.waits j m hm hgoes
  exact Option.some.inj (hi.symm.trans hj)

/-- Without a handle no loop goes on. -/
theorem ended_of_handle_none (h : u.Orderly) (hhandle : u.handle = none) :
    ∀ l ∈ u.loops, l.ended = true := by
  rcases h.ended_or_one with hended | ⟨i, l, hi, -⟩
  · exact hended
  · rw [hhandle] at hi
    cases hi

/-- The store is there and only the session holds it, or it is gone. -/
theorem shared_cases (h : u.Orderly) :
    (u.owned = true ∧ ∃ store, u.shared = .live store 0) ∨ (u.owned = false ∧ u.shared = .freed) :=
  Shared.eq_of_holders h.holders

/-! ## Commands to the clock and the store -/

theorem consult (h : u.Orderly) {command : Command} (hconsults : command.consults = true) :
    u.Mirrors (u.step favours command) (u.session.step command) := by
  have hkept := u.session.step_of_consults hconsults
  rw [step_of_consults hconsults]
  unfold Upkeep.consult
  generalize u.session.step command = shown at hkept ⊢
  obtain ⟨⟨clock, store, elapsed, reclaimer⟩, answer, events⟩ := shown
  obtain ⟨rfl, rfl, hstore⟩ := hkept
  refine .of_no_pass ⟨?_, h.waits, h.held⟩ ?_ rfl rfl
  · rcases h.shared_cases with ⟨howned, content, hshared⟩ | ⟨howned, hshared⟩
    · cases store <;> simp [howned, hshared, Shared.holders, Shared.put]
    · cases store <;> simp [howned, hshared, Shared.holders, Shared.put]
  · rcases h.shared_cases with ⟨howned, content, hshared⟩ | ⟨howned, hshared⟩
    · obtain ⟨after, rfl⟩ : ∃ after, store = some after := by
        simpa [session, howned, hshared, Shared.store?, Option.isSome_iff_exists] using hstore
      simp [session, howned, hshared, Shared.store?, Shared.put]
    · obtain rfl : store = none := by simpa [session, howned] using hstore
      simp [session, howned]

/-! ## Time -/

/-- While time passes and no loop goes on, time passes. -/
theorem elapse_of_ended (h : u.Orderly) (hended : ∀ l ∈ u.loops, l.ended = true)
    (passage : Passage) (length : Duration) :
    u.Mirrors (u.step favours (.elapse passage length))
      (u.session.step (.elapse passage length)) := by
  have hfinished : ∀ r, u.session.reclaimer = some r → r.finished = true := by
    intro r hr
    obtain ⟨i, -, hread⟩ := Option.bind_eq_some_iff.1 hr
    obtain ⟨l, hl, rfl⟩ := Option.map_eq_some_iff.1 hread
    exact hended l (List.mem_of_getElem? hl)
  have hshown : u.session.step (.elapse passage length) = _ :=
    Session.elapse_of_finished hfinished passage length
  rw [hshown]
  simp only [step, attend, attendAll_of_ended hended]
  refine .of_no_pass ⟨h.holders, ?_, h.held⟩ rfl rfl (List.append_nil _)
  intro i l hl hactive
  have hend := hended l (List.mem_of_getElem? hl)
  exact (Bool.false_ne_true (hactive.symm.trans hend)).elim

/-- **While time passes**, what is done to the store and the loops is what a session shows. -/
theorem elapse (h : u.Orderly) (passage : Passage) (length : Duration) :
    u.Mirrors (u.step favours (.elapse passage length))
      (u.session.step (.elapse passage length)) := by
  rcases h.ended_or_one with hended | ⟨i, l, hi, hl, hwaits⟩
  · exact h.elapse_of_ended hended passage length
  · have hothers := h.othersEnded hi
    have hreclaimer : u.session.reclaimer = some ⟨l.ticker, false⟩ := by
      simp only [session, hi, Option.bind_some, hl, Option.map_some, hwaits.ended]
    rcases h.shared_cases with ⟨howned, store, hshared⟩ | ⟨howned, hshared⟩
    · have hstore : u.session.store = some store := by
        simp only [session, howned, hshared, Shared.store?, if_true]
      refine mirrors_of_attended hi hl hwaits.ended hothers
        (by rw [hshared, hwaits.attend_live]) ?_ ?_ ?_ ?_
      · rw [howned]
        rfl
      · intro _
        exact ⟨hwaits.ended, hwaits.signal, l.ticker.lt_due_catchUp passage _⟩
      · intro hfreed
        rw [howned] at hfreed
        cases hfreed
      · refine (Session.elapse_of_live hreclaimer hstore passage length).trans ?_
        simp only [session, howned, Shared.store?, if_true, hwaits.ended]
    · have hstore : u.session.store = none := by
        simp only [session, howned, Bool.false_eq_true, if_false]
      have hshown := Session.elapse_of_orphaned hreclaimer hstore passage length
      have hholders : Shared.freed.holders = u.owned.toNat := by
        rw [howned]
        rfl
      by_cases hdue : l.ticker.due ≤ u.elapsed + length.nanoseconds
      · refine mirrors_of_attended hi hl hwaits.ended hothers
          (by rw [hshared, hwaits.attend_freed hdue]) hholders ?_ (fun _ => rfl) ?_
        · intro hgoes
          cases hgoes
        · refine hshown.trans ?_
          simp only [session, howned, hdue, decide_true, if_true, Bool.false_eq_true, if_false,
            List.length_nil]
      · refine mirrors_of_attended hi hl hwaits.ended hothers
          (by rw [hshared, hwaits.attend_of_not_due hdue]) hholders ?_ (fun _ => rfl) ?_
        · intro _
          exact ⟨hwaits.ended, hwaits.signal, Nat.lt_of_not_le hdue⟩
        · refine hshown.trans ?_
          simp only [session, howned, hdue, decide_false, Bool.false_eq_true, if_false,
            hwaits.ended, List.length_nil]

/-! ## The handle -/

/-- A session shows a reclaimer just when there is a handle. -/
theorem isSome_reclaimer (h : u.Orderly) : u.session.reclaimer.isSome = u.handle.isSome := by
  cases hhandle : u.handle with
  | none => simp only [session, hhandle, Option.bind_none, Option.isSome_none]
  | some i =>
    obtain ⟨l, hl⟩ := h.held i hhandle
    simp only [session, hhandle, Option.bind_some, hl, Option.map_some, Option.isSome_some]

/-- **A dropped handle takes its loop with it**, and nothing else. -/
theorem abandon (h : u.Orderly) :
    (∀ l ∈ u.abandon.loops, l.ended = true) ∧
      u.abandon = { u with loops := u.abandon.loops, handle := none } := by
  obtain ⟨clock, elapsed, owned, shared, loops, handle, passes⟩ := u
  cases handle with
  | none => exact ⟨h.ended_of_handle_none rfl, rfl⟩
  | some i =>
    refine ⟨ended_hangUp (((h.othersEnded rfl).modify _).ended ?_) i, rfl⟩
    intro l hl
    rw [List.getElem?_modify_eq] at hl
    obtain ⟨m, -, rfl⟩ := Option.map_eq_some_iff.1 hl
    rfl

theorem dropReclaimer (h : u.Orderly) :
    u.Mirrors (u.step favours .dropReclaimer) (u.session.step .dropReclaimer) := by
  obtain ⟨hended, habandon⟩ := h.abandon
  have hstep : u.step favours .dropReclaimer =
      (u.abandon, .dropped u.session.reclaimer.isSome, []) := by
    rw [h.isSome_reclaimer]
    rfl
  rw [hstep, habandon]
  exact .of_no_pass (orderly_of_ended h.holders hended rfl) rfl rfl rfl

/-- A loop that was told to stop is done with its next turn, and makes no pass. -/
theorem ended_attend_of_told (h : u.Orderly) {i : Nat} {l : Loop} (hl : u.loops[i]? = some l)
    (luck : Loop → Bool) :
    ∃ after : Loop, after.ended = true ∧
      Loop.attend luck u.elapsed u.elapsed u.clock { l with signal := l.signal.send true }
        u.shared = ⟨after, u.shared, [], []⟩ := by
  cases hended : l.ended with
  | true => exact ⟨_, rfl, Loop.attend_of_ended rfl⟩
  | false =>
    obtain ⟨-, hwaits⟩ := h.waits i l hl hended
    exact ⟨_, rfl, Loop.attend_of_told rfl rfl rfl hwaits.pending⟩

/-- **When a handle is used up its loop is done**, with no pass made. -/
theorem shutDown (h : u.Orderly) {i : Nat} (hi : u.handle = some i) :
    ∃ loops, (∀ l ∈ loops, l.ended = true) ∧
      u.shutDown favours =
        ({ u with loops := loops, handle := none }, .stopped true, [.reclaimerStopped]) := by
  obtain ⟨l, hl⟩ := h.held i hi
  obtain ⟨after, hafter, hturn⟩ := h.ended_attend_of_told hl (favours (0 + i))
  let raise : Loop → Loop := fun l => { l with signal := l.signal.send true }
  have hraised : (u.loops.modify i raise)[i]? = some (raise l) := by
    rw [List.getElem?_modify_eq, hl]
    rfl
  have hothers : OthersEnded (u.loops.modify i raise) i := (h.othersEnded hi).modify raise
  let done : Upkeep := { u with loops := (u.loops.modify i raise).set i after }
  have hended : ∀ l ∈ done.loops, l.ended = true := by
    refine (hothers.set after).ended ?_
    intro m hm
    rw [List.getElem?_set_self (List.getElem?_eq_some_iff.1 hraised).1] at hm
    exact Option.some.inj hm ▸ hafter
  refine ⟨(done.hangUp i).loops, ended_hangUp hended i, ?_⟩
  simp only [Upkeep.shutDown, hi, attend, attendAll_of_one hraised hothers, raise, hturn,
    List.map_nil, List.append_nil, List.nil_append]
  rfl

theorem shutdown (h : u.Orderly) :
    u.Mirrors (u.step favours .shutdown) (u.session.step .shutdown) := by
  cases hhandle : u.handle with
  | none =>
    have hreclaimer : u.session.reclaimer = none := by
      simp only [session, hhandle, Option.bind_none]
    have hshown : u.session.step .shutdown = (u.session, .stopped false, []) := by
      simp only [Session.step, hreclaimer]
    have hstep : u.step favours .shutdown = (u, .stopped false, []) := by
      simp only [step, Upkeep.shutDown, hhandle]
    rw [hstep, hshown]
    exact .of_no_pass h rfl rfl rfl
  | some i =>
    obtain ⟨loops, hended, hstep⟩ := h.shutDown hhandle
    obtain ⟨l, hl⟩ := h.held i hhandle
    have hreclaimer : u.session.reclaimer = some ⟨l.ticker, l.ended⟩ := by
      simp only [session, hhandle, Option.bind_some, hl, Option.map_some]
    have hshown : u.session.step .shutdown =
        ({ u.session with reclaimer := none }, .stopped true, [.reclaimerStopped]) := by
      simp only [Session.step, hreclaimer]
    rw [step, hstep, hshown]
    exact .of_no_pass (orderly_of_ended h.holders hended rfl) rfl rfl rfl

/-! ## The store and new reclaimers -/

/-- The store goes with the session's reference, whatever loops there are. -/
theorem dropStore (h : u.Orderly) :
    u.Mirrors (u.step favours .dropStore) (u.session.step .dropStore) := by
  rcases h.shared_cases with ⟨howned, store, hshared⟩ | ⟨howned, hshared⟩
  · have hstep : u.step favours .dropStore =
        ({ u with owned := false, shared := .freed }, .dropped true, []) := by
      simp only [step, howned, hshared, if_true, Shared.release]
    have hshown : u.session.step .dropStore =
        ({ u.session with store := none }, .dropped true, []) := by
      simp only [Session.step, session, howned, hshared, if_true, Shared.store?, Option.isSome_some]
    rw [hstep, hshown]
    exact .of_no_pass ⟨rfl, h.waits, h.held⟩ rfl rfl rfl
  · have hstep : u.step favours .dropStore = (u, .dropped false, []) := by
      simp only [step, howned, Bool.false_eq_true, if_false]
      rw [← howned]
    have hshown : u.session.step .dropStore = (u.session, .dropped false, []) := by
      simp only [Session.step, session, howned, Bool.false_eq_true, if_false, Option.isSome_none]
    rw [hstep, hshown]
    exact .of_no_pass h rfl rfl rfl

/-- A reclaimer that is started takes the handle, and its loop is the only one that goes on. -/
theorem spawn_of_ok (h : u.Orderly) {store : Store} {interval : Duration} {r : Reclaimer}
    (hstore : u.session.store = some store)
    (hspawn : Reclaimer.spawn store.limits interval u.elapsed = .ok r) :
    u.Mirrors (u.step favours (.spawn interval)) (u.session.step (.spawn interval)) := by
  obtain ⟨hended, habandon⟩ := h.abandon
  have hr := Reclaimer.eq_of_spawn hspawn
  have hfinished : r.finished = false := by rw [hr]
  have hpending : u.elapsed < r.ticker.due := by
    rw [hr]
    exact Nat.lt_add_of_pos_right (Reclaimer.effectiveInterval_pos store.limits interval)
  have hstep : u.step favours (.spawn interval) =
      ({ u with
          loops := u.abandon.loops ++ [⟨r.ticker, .silent, false⟩]
          handle := some u.abandon.loops.length },
        .spawned (.ok r.interval), [.reclaimerStarted r.interval]) := by
    simp only [step, Upkeep.spawn, hstore, hspawn]
    rw [habandon]
  have hshown : u.session.step (.spawn interval) =
      ({ u.session with reclaimer := some r }, .spawned (.ok r.interval),
        [.reclaimerStarted r.interval]) := by
    have hspawned : Reclaimer.spawn store.limits interval u.session.elapsed = .ok r := hspawn
    simp only [Session.step, hstore, Session.stepStore, hspawned]
  have hlast : (u.abandon.loops ++ [⟨r.ticker, .silent, false⟩])[u.abandon.loops.length]? =
      some ⟨r.ticker, .silent, false⟩ := List.getElem?_concat_length
  rw [hstep, hshown]
  refine .of_no_pass (orderly_of_one h.holders rfl hlast (othersEnded_concat hended _) ?_) ?_
    rfl rfl
  · intro _
    exact ⟨rfl, rfl, hpending⟩
  · simp only [session, Option.bind_some, hlast, Option.map_some]
    rw [← hfinished]

theorem spawn (h : u.Orderly) (interval : Duration) :
    u.Mirrors (u.step favours (.spawn interval)) (u.session.step (.spawn interval)) := by
  cases hstore : u.session.store with
  | none =>
    have hstep : u.step favours (.spawn interval) = (u, .noStore, []) := by
      simp only [step, Upkeep.spawn, hstore]
    have hshown : u.session.step (.spawn interval) = (u.session, .noStore, []) := by
      simp only [Session.step, hstore]
    rw [hstep, hshown]
    exact .of_no_pass h rfl rfl rfl
  | some store =>
    cases hspawn : Reclaimer.spawn store.limits interval u.elapsed with
    | error e =>
      have hrefused : Reclaimer.spawn store.limits interval u.session.elapsed = .error e := hspawn
      have hstep : u.step favours (.spawn interval) = (u, .spawned (.error e), []) := by
        simp only [step, Upkeep.spawn, hstore, hspawn]
      have hshown : u.session.step (.spawn interval) = (u.session, .spawned (.error e), []) := by
        simp only [Session.step, hstore, Session.stepStore, hrefused]
      rw [hstep, hshown]
      exact .of_no_pass h rfl rfl rfl
    | ok r => exact h.spawn_of_ok hstore hspawn

/-! ## Every command -/

/-- **Every command keeps the order, and a session shows what it does.** -/
theorem step (h : u.Orderly) (favours : Nat → Loop → Bool) (command : Command) :
    u.Mirrors (u.step favours command) (u.session.step command) := by
  cases hconsults : command.consults with
  | true => exact h.consult hconsults
  | false =>
    cases command with
    | spawn interval => exact h.spawn interval
    | elapse passage length => exact h.elapse passage length
    | shutdown => exact h.shutdown
    | dropReclaimer => exact h.dropReclaimer
    | dropStore => exact h.dropStore
    | _ => cases hconsults

/-- **So does every run.** -/
theorem run (h : u.Orderly) (favours : Nat → Loop → Bool) (commands : List Command) :
    (u.run favours commands).1.Orderly ∧
      (u.run favours commands).1.session = (u.session.run commands).1 ∧
      (u.run favours commands).2 = (u.session.run commands).2 := by
  induction commands generalizing u with
  | nil => exact ⟨h, rfl, rfl⟩
  | cons command rest ih =>
    have hstep := h.step favours command
    obtain ⟨horderly, hsession, hanswers⟩ := ih hstep.orderly
    rw [hstep.session] at hsession hanswers
    refine ⟨horderly, hsession, ?_⟩
    simp only [Upkeep.run, Session.run, hstep.replies, hanswers]

end Orderly
end Upkeep
end Admission
