import Admission.Proofs.Store.Serving
import Admission.Proofs.Upkeep.Orderly

/-!
# How long a loop goes on

The handle decides about the passes: it comes with a reclaimer that could be started, and goes
with the next one, with its own end, or never.  Without it no loop is active, and without the
store the loop that is left makes no pass and ends at its next tick.  Neither the handle nor the
session's reference to the store comes back by itself, which is all that the runs need.

* `Upkeep.Holding` — a run after which there is a handle;
* `holding_of_isSome_handle`, `not_mem_of_owned` — what is there was not taken away;
* `Orderly.run_of_no_handle`, `Orderly.run_of_not_owned` — what is gone stays away;
* `Session.Orphaned` — when a loop whose store is gone has ended;
* `reclaimer_lifecycle` — all of it, for every run.
-/

namespace Admission

/-- Whether an answer says that a reclaimer was started. -/
def Answer.isStarted : Answer → Bool
  | .spawned (.ok _) => true
  | _ => false

/-- Whether a command ends the reclaimer by its handle. -/
def Command.endsReclaimer : Command → Bool
  | .shutdown | .dropReclaimer => true
  | _ => false

/-- Whether a command is to change what the store tracks, or to give the store up. -/
def Command.isExplicit : Command → Bool
  | .allow _ | .allowMany _ _ | .reclaim | .clear | .dropStore => true
  | _ => false

namespace Session

variable {s : Session} {ticker : Ticker}

/-- A command to the clock or the store that is no explicit operation leaves the store as it is. -/
theorem store_step_of_not_explicit {command : Command} (hconsults : command.consults = true)
    (h : command.isExplicit = false) : (s.step command).1.store = s.store := by
  obtain ⟨clock, store, elapsed, reclaimer⟩ := s
  cases command with
  | setClock _ | isFinished | interval => rfl
  | advanceClock nanoseconds =>
    simp only [step]
    cases clock.advance? nanoseconds <;> rfl
  | contains _ | isEmpty | visitor _ => cases store <;> rfl
  | allow _ | allowMany _ _ | reclaim | clear | dropStore => cases h
  | spawn _ | elapse _ _ | shutdown | dropReclaimer => cases hconsults

/-! ## Without a store -/

/-- The store is gone, and a reclaimer that is left goes on until its next tick. -/
structure Orphaned (ticker : Ticker) (s : Session) : Prop where
  store : s.store = none
  reclaimer : ∀ r, s.reclaimer = some r → r = ⟨ticker, decide (ticker.due ≤ s.elapsed)⟩

/-- **Without a store a reclaimer ends at its next tick**, and not before. -/
theorem Orphaned.elapse (h : s.Orphaned ticker) (passage : Passage) (length : Duration) :
    (s.elapse passage length).1.Orphaned ticker := by
  have hread := h.reclaimer
  cases hreclaimer : s.reclaimer with
  | none =>
    have hnobody : ∀ r, s.reclaimer = some r → r.finished = true := by
      rw [hreclaimer]
      intro r hr
      cases hr
    rw [elapse_of_finished hnobody]
    refine ⟨h.store, ?_⟩
    intro r hr
    rw [hreclaimer] at hr
    cases hr
  | some r =>
    have hr := hread r hreclaimer
    by_cases hdue : ticker.due ≤ s.elapsed
    · -- It has ended already, and stays so.
      have hfinished : ∀ r', s.reclaimer = some r' → r'.finished = true := by
        intro r' hr'
        rw [hread r' hr']
        exact decide_eq_true hdue
      have hlater : ticker.due ≤ s.elapsed + length.nanoseconds := by omega
      rw [elapse_of_finished hfinished]
      refine ⟨h.store, ?_⟩
      intro r' hr'
      rw [hread r' hr', decide_eq_true hdue, decide_eq_true hlater]
    · have hgoes : s.reclaimer = some ⟨ticker, false⟩ := by
        rw [hreclaimer, hr, decide_eq_false hdue]
      rw [elapse_of_orphaned hgoes h.store]
      exact ⟨h.store, fun r' hr' => (Option.some.inj hr').symm⟩

theorem Orphaned.step (h : s.Orphaned ticker) (command : Command) :
    (s.step command).1.Orphaned ticker := by
  cases hconsults : command.consults with
  | true =>
    obtain ⟨helapsed, hreclaimer, hstore⟩ := s.step_of_consults hconsults
    rw [h.store, Option.isSome_none] at hstore
    refine ⟨Option.not_isSome_iff_eq_none.1 (Bool.eq_false_iff.1 hstore), ?_⟩
    rw [helapsed, hreclaimer]
    exact h.reclaimer
  | false =>
    cases command with
    | elapse passage length => exact h.elapse passage length
    | spawn interval =>
      have hstep : s.step (.spawn interval) = (s, .noStore, []) := by
        simp only [Session.step, h.store]
      rw [hstep]
      exact h
    | shutdown =>
      cases hreclaimer : s.reclaimer with
      | none =>
        have hstep : s.step .shutdown = (s, .stopped false, []) := by
          simp only [Session.step, hreclaimer]
        rw [hstep]
        exact h
      | some r =>
        have hstep : (s.step .shutdown).1 = { s with reclaimer := none } := by
          simp only [Session.step, hreclaimer]
        rw [hstep]
        refine ⟨h.store, ?_⟩
        intro r' hr'
        cases hr'
    | dropReclaimer =>
      refine ⟨h.store, ?_⟩
      intro r hr
      cases hr
    | dropStore => exact ⟨rfl, h.reclaimer⟩
    | _ => cases hconsults

theorem Orphaned.run (h : s.Orphaned ticker) (commands : List Command) :
    (s.run commands).1.Orphaned ticker := by
  induction commands generalizing s with
  | nil => exact h
  | cons command rest ih => exact ih (h.step command)

end Session

namespace Upkeep

variable {favours : Nat → Loop → Bool} {u : Upkeep} {command : Command} {commands : List Command}

/-! ## One command -/

theorem handle_shutDown (u : Upkeep) : (u.shutDown favours).1.handle = none := by
  unfold shutDown
  cases hhandle : u.handle with
  | none => exact hhandle
  | some i => rfl

theorem handle_abandon (u : Upkeep) : u.abandon.handle = none := by
  unfold abandon
  cases hhandle : u.handle with
  | none => exact hhandle
  | some i => rfl

/-- A handle that is there after a command came with it, or was there and not taken away. -/
theorem isSome_handle_of_step (h : (u.step favours command).1.handle.isSome = true) :
    command.endsReclaimer = false ∧
      (u.handle.isSome = true ∨ ∃ interval, command = .spawn interval ∧
        (u.step favours command).2.1.isStarted = true) := by
  cases command with
  | shutdown =>
    rw [step, handle_shutDown] at h
    cases h
  | dropReclaimer =>
    rw [step, handle_abandon] at h
    cases h
  | spawn interval =>
    refine ⟨rfl, ?_⟩
    simp only [step, spawn] at h ⊢
    split at h
    · exact .inl h
    · split at h
      · exact .inl h
      · exact .inr ⟨interval, rfl, rfl⟩
  | _ => exact ⟨rfl, .inl h⟩

/-- A handle that is there stays, unless it is used up or dropped. -/
theorem isSome_handle_step (h : u.handle.isSome = true) (hends : command.endsReclaimer = false) :
    (u.step favours command).1.handle.isSome = true := by
  cases command with
  | shutdown | dropReclaimer => cases hends
  | spawn interval =>
    simp only [step, spawn]
    split
    · exact h
    · split
      · exact h
      · rfl
  | _ => exact h

theorem owned_shutDown (u : Upkeep) : (u.shutDown favours).1.owned = u.owned := by
  unfold shutDown
  cases u.handle <;> rfl

theorem owned_abandon (u : Upkeep) : u.abandon.owned = u.owned := by
  unfold abandon
  cases u.handle <;> rfl

/-- A store that the session holds after a command was not dropped by it. -/
theorem owned_of_step (h : (u.step favours command).1.owned = true) :
    u.owned = true ∧ command ≠ .dropStore := by
  cases command with
  | shutdown =>
    rw [step, owned_shutDown] at h
    exact ⟨h, by simp⟩
  | dropReclaimer =>
    rw [step, owned_abandon] at h
    exact ⟨h, by simp⟩
  | spawn interval =>
    refine ⟨?_, by simp⟩
    simp only [step, spawn] at h
    split at h
    · exact h
    · split at h
      · exact h
      · exact u.owned_abandon ▸ h
  | dropStore => cases h
  | _ => exact ⟨h, by simp⟩

/-- **What could not be started changes nothing.** -/
theorem step_spawn_of_not_started {interval : Duration}
    (h : (u.step favours (.spawn interval)).2.1.isStarted = false) :
    (u.step favours (.spawn interval)).1 = u ∧ (u.step favours (.spawn interval)).2.2 = [] := by
  simp only [step, spawn] at h ⊢
  split at h
  · exact ⟨rfl, rfl⟩
  · split at h
    · exact ⟨rfl, rfl⟩
    · cases h

namespace Orderly

/-- **Without a handle only explicit operations come to the store.** -/
theorem shared_step (h : u.Orderly) (hhandle : u.handle = none)
    (hexplicit : command.isExplicit = false) :
    (u.step favours command).1.shared = u.shared := by
  have habandon : u.abandon = u := by
    simp only [Upkeep.abandon, hhandle]
  cases hconsults : command.consults with
  | true =>
    have hstore := u.session.store_step_of_not_explicit hconsults hexplicit
    rw [step_of_consults hconsults]
    simp only [Upkeep.consult, hstore]
    rcases h.shared_cases with ⟨howned, store, hshared⟩ | ⟨howned, hshared⟩
    · simp only [session, howned, hshared, Shared.store?, if_true, Option.elim_some, Shared.put]
    · simp only [session, howned, Bool.false_eq_true, if_false, Option.elim_none]
  | false =>
    cases command with
    | elapse passage length =>
      simp only [Upkeep.step, attend, attendAll_of_ended (h.ended_of_handle_none hhandle)]
    | spawn interval =>
      simp only [Upkeep.step, Upkeep.spawn, habandon]
      split
      · rfl
      · split <;> rfl
    | shutdown => simp only [Upkeep.step, Upkeep.shutDown, hhandle]
    | dropReclaimer => rw [Upkeep.step, habandon]
    | dropStore => cases hexplicit
    | _ => cases hconsults

/-- Without a handle, or without a store, there are no passes. -/
theorem passes_step (h : u.Orderly) (hnone : u.handle = none ∨ u.owned = false) :
    (u.step favours command).1.passes = u.passes := by
  obtain ⟨made, hmade, hwhose⟩ := (h.step favours command).passes
  have hnobody : made = [] := by
    rw [List.eq_nil_iff_forall_not_mem]
    intro pass hpass
    obtain ⟨hhandle, -, howned⟩ := hwhose pass hpass
    rcases hnone with hgone | hgone
    · rw [hgone] at hhandle
      cases hhandle
    · rw [hgone] at howned
      cases howned
  rw [hmade, hnobody, List.append_nil]

/-! ## Runs -/

/-- **Without a handle it stays so until another reclaimer is started**, and no pass is made. -/
theorem run_of_no_handle (h : u.Orderly) (hhandle : u.handle = none)
    (hstarted : ∀ answer ∈ (u.run favours commands).2, answer.isStarted = false) :
    (u.run favours commands).1.handle = none ∧
      (u.run favours commands).1.passes = u.passes := by
  induction commands generalizing u with
  | nil => exact ⟨hhandle, rfl⟩
  | cons command rest ih =>
    have hfirst : (u.step favours command).2.1.isStarted = false :=
      hstarted _ (List.mem_cons_self ..)
    have hafter : (u.step favours command).1.handle = none := by
      by_contra hsome
      obtain ⟨-, hthere | ⟨-, -, hcame⟩⟩ :=
        isSome_handle_of_step (Option.isSome_iff_ne_none.2 hsome)
      · rw [hhandle] at hthere
        cases hthere
      · rw [hfirst] at hcame
        cases hcame
    obtain ⟨hnone, hpasses⟩ := ih (h.step favours command).orderly hafter
      fun answer hanswer => hstarted answer (List.mem_cons_of_mem _ hanswer)
    exact ⟨hnone, hpasses.trans (h.passes_step (.inl hhandle))⟩

/-- **A store that was dropped does not come back**, and no pass is made. -/
theorem run_of_not_owned (h : u.Orderly) (howned : u.owned = false) (commands : List Command) :
    (u.run favours commands).1.owned = false ∧
      (u.run favours commands).1.passes = u.passes := by
  induction commands generalizing u with
  | nil => exact ⟨howned, rfl⟩
  | cons command rest ih =>
    have hafter : (u.step favours command).1.owned = false := by
      by_contra hthere
      obtain ⟨hbefore, -⟩ := owned_of_step (Bool.eq_true_of_not_eq_false hthere)
      rw [howned] at hbefore
      cases hbefore
    obtain ⟨hgone, hpasses⟩ := ih (h.step favours command).orderly hafter
    exact ⟨hgone, hpasses.trans (h.passes_step (.inr howned))⟩

end Orderly

/-- The state after a run and one more command. -/
theorem run_concat (u : Upkeep) (favours : Nat → Loop → Bool) (commands : List Command)
    (command : Command) :
    (u.run favours (commands ++ [command])).1 =
      ((u.run favours commands).1.step favours command).1 := by
  induction commands generalizing u with
  | nil => rfl
  | cons first rest ih => exact ih (u.step favours first).1

/-- Commands after which there is a handle: one of them started a reclaimer, and none after it
ended one by its handle. -/
def Holding (favours : Nat → Loop → Bool) (start : Upkeep) (commands : List Command) : Prop :=
  ∃ earlier requested later, commands = earlier ++ .spawn requested :: later ∧
    ((start.run favours earlier).1.step favours (.spawn requested)).2.1.isStarted = true ∧
    ∀ command ∈ later, command.endsReclaimer = false

/-- **A handle came with a reclaimer that was started**, and was not taken away since. -/
theorem holding_of_isSome_handle (hstart : u.handle = none)
    (h : (u.run favours commands).1.handle.isSome = true) : Holding favours u commands := by
  induction commands using List.reverseRecOn with
  | nil =>
    rw [run, hstart] at h
    cases h
  | append_singleton earlier command ih =>
    rw [run_concat] at h
    obtain ⟨hends, hthere | ⟨requested, rfl, hcame⟩⟩ := isSome_handle_of_step h
    · obtain ⟨before, requested, later, rfl, hstarted, hkept⟩ := ih hthere
      refine ⟨before, requested, later ++ [command], by simp, hstarted, ?_⟩
      intro c hc
      rcases List.mem_append.1 hc with hc | hc
      · exact hkept c hc
      · exact List.mem_singleton.1 hc ▸ hends
    · refine ⟨earlier, requested, [], rfl, hcame, ?_⟩
      intro c hc
      cases hc

/-- A store that the session holds after a run was there before it, and was not dropped. -/
theorem owned_of_run (h : (u.run favours commands).1.owned = true) :
    u.owned = true ∧ .dropStore ∉ commands := by
  induction commands generalizing u with
  | nil => exact ⟨h, List.not_mem_nil⟩
  | cons command rest ih =>
    obtain ⟨hstep, hrest⟩ := ih h
    obtain ⟨howned, hcommand⟩ := owned_of_step hstep
    refine ⟨howned, ?_⟩
    intro hmem
    rcases List.mem_cons.1 hmem with heq | hmem
    · exact hcommand heq.symm
    · exact hrest hmem

/-- A handle that is there stays along a run that neither uses it up nor drops it. -/
theorem isSome_handle_run (h : u.handle.isSome = true)
    (hends : ∀ command ∈ commands, command.endsReclaimer = false) :
    (u.run favours commands).1.handle.isSome = true := by
  induction commands generalizing u with
  | nil => exact h
  | cons command rest ih =>
    exact ih (isSome_handle_step h (hends command (List.mem_cons_self ..)))
      fun later hlater => hends later (List.mem_cons_of_mem _ hlater)

/-! ## The lifecycle -/

namespace Orderly

/-- **Ending a reclaimer ends its loop**, with no pass made and the store as it is. -/
theorem ended_of_endsReclaimer (h : u.Orderly) (favours : Nat → Loop → Bool)
    (hends : command.endsReclaimer = true) :
    (u.step favours command).1.handle = none ∧
      (u.step favours command).1.passes = u.passes ∧
      (u.step favours command).1.shared = u.shared := by
  cases command with
  | shutdown =>
    refine ⟨u.handle_shutDown, ?_⟩
    cases hhandle : u.handle with
    | none => simp only [Upkeep.step, Upkeep.shutDown, hhandle, and_self]
    | some i =>
      obtain ⟨loops, -, hstep⟩ := h.shutDown hhandle
      rw [Upkeep.step, hstep]
      exact ⟨rfl, rfl⟩
  | dropReclaimer =>
    obtain ⟨-, habandon⟩ := h.abandon
    rw [Upkeep.step, habandon]
    exact ⟨rfl, rfl, rfl⟩
  | _ => cases hends

/-- Without a handle no loop is active. -/
theorem not_active (h : u.Orderly) (hhandle : u.handle = none) (i : Nat) : ¬ u.Active i := by
  rintro ⟨l, hl, hactive⟩
  have hended := h.ended_of_handle_none hhandle l (List.mem_of_getElem? hl)
  exact Bool.false_ne_true (hactive.symm.trans hended)

/-- The reclaimer that a session shows while a loop is active has that loop. -/
theorem reclaimer_of_active (h : u.Orderly) {i : Nat} {l : Loop} (hl : u.loops[i]? = some l)
    (hactive : l.ended = false) : u.session.reclaimer = some ⟨l.ticker, false⟩ := by
  obtain ⟨hi, -⟩ := h.waits i l hl hactive
  simp only [session, hi, Option.bind_some, hl, Option.map_some, hactive]

/-- **The loop that the store leaves behind** goes on until its next tick and has ended from then
on, unless its handle ends it before. -/
theorem active_of_dropStore (h : u.Orderly) (favours : Nat → Loop → Bool) {i : Nat} {l : Loop}
    (hl : u.loops[i]? = some l) (hactive : l.ended = false) (later : List Command) :
    let after := ((u.step favours .dropStore).1.run favours later).1
    (l.ticker.due ≤ after.elapsed → ¬ after.Active i) ∧
      ((∀ command ∈ later, command.endsReclaimer = false) →
        (after.step favours .isFinished).2.1 =
          .finished (some (decide (l.ticker.due ≤ after.elapsed)))) := by
  intro after
  have hdropped := (h.step favours .dropStore).orderly
  obtain ⟨horderly, hsession, -⟩ := hdropped.run favours later
  -- What the session shows from here on is a reclaimer without a store.
  have horphaned : after.session.Orphaned l.ticker := by
    obtain ⟨hi, hwaits⟩ := h.waits i l hl hactive
    have hshown := (h.step favours .dropStore).session
    rw [hsession, hshown]
    refine Session.Orphaned.run ⟨rfl, ?_⟩ later
    intro r hr
    have hreclaimer : some ⟨l.ticker, false⟩ = some r :=
      (h.reclaimer_of_active hl hactive).symm.trans hr
    have hpending : ¬ l.ticker.due ≤ u.elapsed := Nat.not_le_of_lt hwaits.pending
    rw [← Option.some.inj hreclaimer]
    exact congrArg _ (decide_eq_false hpending).symm
  constructor
  · rintro hdue ⟨m, hm, hgoes⟩
    have hread := horphaned.reclaimer _ (horderly.reclaimer_of_active hm hgoes)
    have hended : false = decide (l.ticker.due ≤ after.elapsed) :=
      congrArg Reclaimer.finished hread
    rw [decide_eq_true hdue] at hended
    cases hended
  · intro hends
    obtain ⟨hi, -⟩ := h.waits i l hl hactive
    have hhandle : after.handle.isSome = true :=
      isSome_handle_run (Option.isSome_iff_exists.2 ⟨i, hi⟩) hends
    obtain ⟨r, hr⟩ := Option.isSome_iff_exists.1 (horderly.isSome_reclaimer.trans hhandle)
    show Answer.finished (after.session.reclaimer.map Reclaimer.finished) = _
    rw [hr, horphaned.reclaimer r hr]
    rfl

end Orderly

/-- What is true of an upkeep that some commands led to from a start. -/
structure Lifecycle (favours : Nat → Loop → Bool) (start : Upkeep) (commands : List Command)
    (u : Upkeep) : Prop where
  /-- A pass is made by the active loop of the handle; the handle came with a reclaimer that was
  started, and neither it nor the store was given up since. -/
  passes : ∀ command, ∃ made, (u.step favours command).1.passes = u.passes ++ made ∧
    ∀ pass ∈ made, u.handle = some pass.loop ∧ u.Active pass.loop ∧
      Holding favours start commands ∧ .dropStore ∉ commands
  /-- At most one loop is active. -/
  single : Set.Subsingleton {i | u.Active i}
  /-- Once the reclaimer was ended by its handle no loop is active, no pass is made, and only
  explicit operations come to the store, until another reclaimer is started. -/
  ended : ∀ ending later, ending.endsReclaimer = true →
    let ended := (u.step favours ending).1
    let after := (ended.run favours later).1
    (∀ answer ∈ (ended.run favours later).2, answer.isStarted = false) →
      ended.shared = u.shared ∧ after.passes = u.passes ∧ (∀ i, ¬ after.Active i) ∧
        ∀ command, command.isExplicit = false →
          (after.step favours command).1.shared = after.shared
  /-- Once the store was dropped it is gone and no pass is made; a loop that was active has ended
  from its next tick on, and not before unless its handle ended it. -/
  orphaned : ∀ later,
    let after := ((u.step favours .dropStore).1.run favours later).1
    after.shared = .freed ∧ after.passes = u.passes ∧
      ∀ i l, u.loops[i]? = some l → l.ended = false →
        (l.ticker.due ≤ after.elapsed → ¬ after.Active i) ∧
          ((∀ command ∈ later, command.endsReclaimer = false) →
            (after.step favours .isFinished).2.1 =
              .finished (some (decide (l.ticker.due ≤ after.elapsed))))
  /-- A reclaimer that could not be started changes nothing. -/
  refused : ∀ interval, (u.step favours (.spawn interval)).2.1.isStarted = false →
    (u.step favours (.spawn interval)).1 = u ∧ (u.step favours (.spawn interval)).2.2 = []

/-- **The lifecycle of reclaimers.**  Whatever commands come, in whatever order, and whichever of
a tick and a raised flag a loop attends to first, the store, the loops and the handle are what a
session shows, answer by answer, and keep to their lifecycle. -/
theorem reclaimer_lifecycle (favours : Nat → Loop → Bool) (limits : Limits) (now : Instant)
    (commands : List Command) :
    let start := opening limits now
    let u := (start.run favours commands).1
    u.session = ((Session.start limits now).run commands).1 ∧
      (start.run favours commands).2 = ((Session.start limits now).run commands).2 ∧
      Lifecycle favours start commands u := by
  intro start u
  obtain ⟨horderly, hsession, hanswers⟩ := (orderly_opening limits now).run favours commands
  rw [session_opening] at hsession hanswers
  refine ⟨hsession, hanswers, ?_, horderly.subsingleton_active, ?_, ?_, ?_⟩
  · intro command
    obtain ⟨made, hmade, hwhose⟩ := (horderly.step favours command).passes
    refine ⟨made, hmade, ?_⟩
    intro pass hpass
    obtain ⟨hhandle, hactive, howned⟩ := hwhose pass hpass
    have hsome : u.handle.isSome = true := Option.isSome_iff_exists.2 ⟨_, hhandle⟩
    exact ⟨hhandle, hactive, holding_of_isSome_handle rfl hsome, (owned_of_run howned).2⟩
  · intro ending later hends ended after hstarted
    obtain ⟨hhandle, hpasses, hshared⟩ := horderly.ended_of_endsReclaimer favours hends
    have hended := (horderly.step favours ending).orderly
    obtain ⟨hnone, hkept⟩ := hended.run_of_no_handle hhandle hstarted
    obtain ⟨hafter, -, -⟩ := hended.run favours later
    refine ⟨hshared, hkept.trans hpasses, hafter.not_active hnone, ?_⟩
    intro command hexplicit
    exact hafter.shared_step hnone hexplicit
  · intro later after
    have hdropped := (horderly.step favours .dropStore).orderly
    obtain ⟨howned, hpasses⟩ := hdropped.run_of_not_owned rfl later
    obtain ⟨hafter, -, -⟩ := hdropped.run favours later
    refine ⟨?_, hpasses, ?_⟩
    · rcases hafter.shared_cases with ⟨hstill, -⟩ | ⟨-, hfreed⟩
      · rw [howned] at hstill
        cases hstill
      · exact hfreed
    · intro i l hl hactive
      exact horderly.active_of_dropStore favours hl hactive later
  · intro interval hrefused
    exact step_spawn_of_not_started hrefused

/-- A reclaimer with a period of ten seconds, which is shut down, or whose store is dropped before
a jump over two ticks, or beside which one with an endless period is wanted. -/
theorem reclaimer_lifecycle_of_ten_seconds :
    let favours : Nat → Loop → Bool := fun _ _ => true
    let u := ((opening .oneASecond .epoch).run favours [.spawn (.ofSeconds 10)]).1
    let jump : List Command := [.elapse .jumping (.ofSeconds 25)]
    let ended := (u.step favours .shutdown).1
    let orphaned := ((u.step favours .dropStore).1.run favours jump).1
    let endless := Duration.ofSeconds 18446744073709551615
    u.Active 0 ∧
      (∀ answer ∈ (ended.run favours jump).2, answer.isStarted = false) ∧
      (ended.run favours jump).1.passes = u.passes ∧
      orphaned.shared = .freed ∧ ¬ orphaned.Active 0 ∧
      (orphaned.step favours .isFinished).2.1 = .finished (some true) ∧
      (u.step favours (.spawn endless)).2.1.isStarted = false ∧
      (u.step favours (.spawn endless)).1 = u := by
  intro favours u jump ended orphaned endless
  obtain ⟨-, -, hlife⟩ := reclaimer_lifecycle favours .oneASecond .epoch [.spawn (.ofSeconds 10)]
  let loop : Loop := ⟨.starting (.ofSeconds 10) (by decide) 0, .silent, false⟩
  have hloop : u.loops[0]? = some loop := rfl
  have hstarted : ∀ answer ∈ (ended.run favours jump).2, answer.isStarted = false := by
    intro answer hanswer
    rw [List.mem_singleton.1 hanswer]
    rfl
  have hrefused : (u.step favours (.spawn endless)).2.1.isStarted = false := rfl
  have hkept : ∀ command ∈ jump, command.endsReclaimer = false := by decide
  have hdue : loop.ticker.due ≤ orphaned.elapsed := by
    show 0 + (Duration.ofSeconds 10).nanoseconds ≤ 0 + (Duration.ofSeconds 25).nanoseconds
    decide
  obtain ⟨-, hpasses, -⟩ := hlife.ended .shutdown jump rfl hstarted
  obtain ⟨hfreed, -, hloops⟩ := hlife.orphaned jump
  obtain ⟨hends, hfinished⟩ := hloops 0 loop hloop rfl
  have hanswer := hfinished hkept
  rw [decide_eq_true hdue] at hanswer
  exact ⟨⟨loop, hloop, rfl⟩, hstarted, hpasses, hfreed, hends hdue, hanswer, hrefused,
    (hlife.refused endless hrefused).1⟩

end Upkeep
end Admission
