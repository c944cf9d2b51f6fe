import Admission.Proofs.Crowd.Sections

/-!
# What a pass takes while callers overlap

A pass reads the clock once and comes to the identifiers later.  It takes whoever was last seen
too long before its reading, and a visitor was last seen when the last section that served it
says: at the reading its call had taken.  A call that was overtaken carries an older reading than
the calls that were served before it, and puts the visitor back to that time.  So an identifier
may be taken although it was served a moment ago, by a call that had just read the clock; but
only if an overtaken call on it was served since.

* `Serves` — the next section of a caller serves its call;
* `AtWork` — a caller has read the clock for a call, and is not done with it;
* `Overtakes` — a call that was at work when another was served, and is served after it;
* `seen_of_step`, `seen_of_run` — a visitor was last seen at the reading of a call that was
  served, or before the moves began;
* `kept_unless_overtaken` — what a pass leaves alone;
* `overtaken_visitor_taken` — which it does not when a call is overtaken.
-/

namespace Admission

namespace Crowd

/-- The call that a caller is at work on. -/
def Stage.call? : Stage → Option Call
  | .idle => none
  | .looking call | .checking call | .entering call => some call

/-- A caller has read the clock for a call, and is not done with it. -/
def AtWork (c : Crowd) (caller : Nat) (call : Call) : Prop :=
  (c.callers[caller]?).bind Stage.call? = some call

/-- The next section of a caller serves its call: it finds the identifier, or enters it. -/
def Serves (c : Crowd) (caller : Nat) (call : Call) : Prop :=
  c.callers[caller]? = some (.looking call) ∧ c.store.contains call.id = true ∨
    c.callers[caller]? = some (.entering call)

/-- A call that somebody is at work on is served in the course of moves. -/
def Overtakes (c : Crowd) (moves : List Move) (caller : Nat) (call : Call) : Prop :=
  c.AtWork caller call ∧
    ∃ before after, moves = before ++ .proceed caller :: after ∧
      (c.run before).Serves caller call

/-- The clock does not move back in the course of moves. -/
def NeverBack (c : Crowd) : List Move → Prop
  | [] => True
  | move :: rest =>
    c.clock.sinceEpoch ≤ (c.step move).clock.sinceEpoch ∧ (c.step move).NeverBack rest

instance decidableNeverBack : ∀ (c : Crowd) (moves : List Move), Decidable (c.NeverBack moves)
  | _, [] => inferInstanceAs (Decidable True)
  | c, move :: rest =>
    have := decidableNeverBack (c.step move) rest
    inferInstanceAs (Decidable (_ ∧ _))

variable {c : Crowd} {caller other : Nat} {call : Call} {id : String} {v : Visitor}

/-! ## When a visitor was last seen -/

theorem Serves.atWork (h : c.Serves caller call) : c.AtWork caller call := by
  unfold AtWork
  rcases h with ⟨stage, -⟩ | stage <;> rw [stage] <;> rfl

/-- To serve a call is to enter it, whether it was found or not. -/
theorem proceed_of_serves (h : c.Serves caller call) :
    c.proceed caller = c.settle caller call (c.store.enrolled call.id call.reading) := by
  rcases h with ⟨stage, tracked⟩ | stage
  · exact proceed_of_tracked stage tracked
  · exact proceed_of_entering stage

/-- Whoever has been served was seen at the reading of its call. -/
theorem lastSeen_of_serves (h : c.Serves caller call)
    (hv : (c.proceed caller).store.visitor? call.id = some v) : v.lastSeen = call.reading := by
  rw [proceed_of_serves h] at hv
  have hwritten := c.store.visitor?_write_self call.id (c.store.served call.id call.reading).2
  rw [← Option.some.inj (hwritten.symm.trans hv)]
  rfl

/-- An entry changes no other visitor. -/
theorem visitor?_of_serves_other (h : c.Serves caller call) (hid : id ≠ call.id) :
    (c.proceed caller).store.visitor? id = c.store.visitor? id := by
  rw [proceed_of_serves h]
  exact c.store.visitor?_write_other hid _

/-- A visitor after a move was there before it, or has just been served. -/
theorem seen_of_step {move : Move} (hv : (c.step move).store.visitor? id = some v) :
    c.store.visitor? id = some v ∨ ∃ caller call, move = .proceed caller ∧
      c.Serves caller call ∧ call.id = id ∧ v.lastSeen = call.reading := by
  have hserved : ∀ {caller call}, c.Serves caller call →
      (c.proceed caller).store.visitor? id = some v →
      c.store.visitor? id = some v ∨ call.id = id ∧ v.lastSeen = call.reading := by
    intro caller call h hproceed
    by_cases hid : id = call.id
    · subst hid
      exact .inr ⟨rfl, lastSeen_of_serves h hproceed⟩
    · exact .inl ((visitor?_of_serves_other h hid).symm.trans hproceed)
  cases move with
  | setClock _ | startPass => exact .inl hv
  | clear => cases hv
  | call caller name =>
    simp only [step] at hv
    split at hv <;> exact .inl hv
  | forget name =>
    by_cases hid : id = name
    · subst hid
      rw [step, Store.visitor?_forget_self] at hv
      cases hv
    · rw [step, Store.visitor?_forget_other c.store hid] at hv
      exact .inl hv
  | visit pass name =>
    simp only [step] at hv
    split at hv
    · by_cases hid : id = name
      · subst hid
        rw [Store.visitor?_visit_self, Option.filter_eq_some_iff] at hv
        exact .inl hv.1
      · rw [Store.visitor?_visit_other c.store hid] at hv
        exact .inl hv
    · exact .inl hv
  | proceed caller =>
    rw [step_proceed] at hv
    have hsection := section_proceed c caller
    generalize hd : c.proceed caller = d at hv hsection
    cases hsection with
    | missed | refused | passed | absent => exact .inl hv
    | @charged call stage tracked =>
      have h : c.Serves caller call := .inl ⟨stage, tracked⟩
      rcases hserved h (hd ▸ hv) with hold | hnew
      · exact .inl hold
      · exact .inr ⟨caller, call, rfl, h, hnew⟩
    | @entered call stage =>
      have h : c.Serves caller call := .inr stage
      rcases hserved h (hd ▸ hv) with hold | hnew
      · exact .inl hold
      · exact .inr ⟨caller, call, rfl, h, hnew⟩

/-- **A visitor was last seen at the reading of a call that was served**, unless it was there
before the moves. -/
theorem seen_of_run {moves : List Move} (hv : (c.run moves).store.visitor? id = some v) :
    c.store.visitor? id = some v ∨ ∃ before caller call after,
      moves = before ++ .proceed caller :: after ∧ (c.run before).Serves caller call ∧
        call.id = id ∧ v.lastSeen = call.reading := by
  induction moves generalizing c with
  | nil => exact .inl hv
  | cons move rest ih =>
    rcases ih hv with hfirst | ⟨before, caller, call, after, rfl, hserves, hid, hseen⟩
    · rcases seen_of_step hfirst with hold | ⟨caller, call, rfl, hserves, hid, hseen⟩
      · exact .inl hold
      · exact .inr ⟨[], caller, call, rest, rfl, hserves, hid, hseen⟩
    · exact .inr ⟨move :: before, caller, call, after, rfl, hserves, hid, hseen⟩

/-! ## What the calls have read -/

/-- Whoever is at work on a call was so before a move, or has just read the clock. -/
theorem atWork_of_step {move : Move} (h : (c.step move).AtWork caller call) :
    c.AtWork caller call ∨ call.reading = c.clock := by
  unfold AtWork at h ⊢
  have hafter := stageAfter_step c caller move
  generalize (c.step move).callers[caller]? = after at h hafter
  cases hafter with
  | kept => exact .inl h
  | called =>
    cases h
    exact .inr rfl
  | missed stage | passed stage =>
    rw [stage]
    exact .inl h
  | settled | absent => cases h

/-- The clock does not move back over a first part of the moves. -/
theorem NeverBack.of_append {first rest : List Move} (h : c.NeverBack (first ++ rest)) :
    c.NeverBack first ∧ (c.run first).NeverBack rest := by
  induction first generalizing c with
  | nil => exact ⟨trivial, h⟩
  | cons move first ih =>
    obtain ⟨hfirst, hrest⟩ := ih h.2
    exact ⟨⟨h.1, hfirst⟩, hrest⟩

/-- **A call that was not at work before the moves has read the clock since.** -/
theorem atWork_of_run {moves : List Move} (hback : c.NeverBack moves)
    (h : (c.run moves).AtWork caller call) :
    c.AtWork caller call ∨ c.clock.sinceEpoch ≤ call.reading.sinceEpoch := by
  induction moves generalizing c with
  | nil => exact .inl h
  | cons move rest ih =>
    obtain ⟨hmove, hrest⟩ := hback
    rcases ih hrest h with hwork | hlater
    · rcases atWork_of_step hwork with hold | hread
      · exact .inl hold
      · exact .inr (hread ▸ Int.le_refl _)
    · exact .inr (Int.le_trans hmove hlater)

/-- No call has read a time that is still to come. -/
def ReadsPast (c : Crowd) : Prop :=
  ∀ caller call, c.AtWork caller call → call.reading.sinceEpoch ≤ c.clock.sinceEpoch

theorem readsPast_opening (limits : Limits) (now : Instant) (callers : Nat) :
    (opening limits now callers).ReadsPast := by
  intro caller call h
  unfold AtWork opening at h
  rw [List.getElem?_replicate] at h
  split at h <;> cases h

theorem ReadsPast.run {moves : List Move} (h : c.ReadsPast) (hback : c.NeverBack moves) :
    (c.run moves).ReadsPast := by
  induction moves generalizing c with
  | nil => exact h
  | cons move rest ih =>
    obtain ⟨hmove, hrest⟩ := hback
    refine ih ?_ hrest
    intro caller call hwork
    rcases atWork_of_step hwork with hold | hread
    · exact Int.le_trans (h caller call hold) hmove
    · rwa [hread]

/-! ## What a pass leaves alone -/

/-- A pass that changes the store has found a stale visitor. -/
theorem stale_of_visit {s : Store} {reading : Instant} (h : s.visit id reading ≠ s) :
    ∃ v, s.visitor? id = some v ∧ v.isStale reading s.limits.expiresIn = true := by
  unfold Store.visit at h
  cases hv : s.visitor? id with
  | none => simp [hv] at h
  | some v =>
    refine ⟨v, rfl, ?_⟩
    cases hstale : v.isStale reading s.limits.expiresIn with
    | true => rfl
    | false => simp [hv, hstale] at h

/-- **Whoever was seen lately is kept, unless a call is overtaken.**  A call is served, and it had
read the clock no longer than the idle period before the reading of a pass.  When the pass comes to
the identifier, after any moves, it leaves the store as it is; or else it finds that an overtaken
call on the identifier was served in between: a call of another caller, which had read the clock
before, more than the idle period before the reading of the pass, and was at work all the time. -/
theorem kept_unless_overtaken {limits : Limits} (now : Instant) (callers : Nat)
    (before between : List Move) {caller pass : Nat} {call : Call} {reading : Instant}
    (hback : (opening limits now callers).NeverBack (before ++ .proceed caller :: between))
    (hserves : ((opening limits now callers).run before).Serves caller call)
    (hpass : ((opening limits now callers).run
      (before ++ .proceed caller :: between)).passes[pass]? = some reading)
    (hrecent : call.reading.nanosecondsTo reading ≤ limits.expiresIn.nanoseconds) :
    let served := ((opening limits now callers).run before).step (.proceed caller)
    let visiting := served.run between
    (visiting.step (.visit pass call.id)).store = visiting.store ∨
      ∃ other late, served.Overtakes between other late ∧ other ≠ caller ∧ late.id = call.id ∧
        late.reading.sinceEpoch < call.reading.sinceEpoch ∧
        limits.expiresIn.nanoseconds < late.reading.nanosecondsTo reading := by
  intro served visiting
  have hrun : (opening limits now callers).run (before ++ .proceed caller :: between) =
      visiting := run_append _ before (.proceed caller :: between)
  obtain ⟨hbefore, hserved⟩ := hback.of_append
  have hpast := (readsPast_opening limits now callers).run hbefore caller call hserves.atWork
  have hclock : served.clock = ((opening limits now callers).run before).clock := by
    show (Crowd.proceed _ caller).clock = _
    rw [proceed_of_serves hserves]
    rfl
  have hlimits : visiting.store.limits = limits := by rw [← hrun, run_limits]; rfl
  rw [hrun] at hpass
  have hvisit : (visiting.step (.visit pass call.id)).store =
      visiting.store.visit call.id reading := by simp only [step, hpass]
  rw [hvisit]
  by_cases hkept : visiting.store.visit call.id reading = visiting.store
  · exact .inl hkept
  · right
    obtain ⟨v, hv, hstale⟩ := stale_of_visit hkept
    rw [Visitor.isStale, decide_eq_true_iff, hlimits] at hstale
    rcases seen_of_run hv with hold | ⟨earlier, other, late, later, rfl, hlate, hid, hseen⟩
    · -- Nobody was served in between: the visitor is as the call left it, and is not stale.
      rw [lastSeen_of_serves hserves hold] at hstale
      exact absurd hstale (Int.not_lt.2 hrecent)
    · rw [hseen] at hstale
      have hearlier : late.reading.sinceEpoch < call.reading.sinceEpoch := by
        unfold Instant.nanosecondsTo at hstale hrecent
        omega
      -- Had the call begun only now, it would have read the clock after the one that was served.
      have hwork : served.AtWork other late := by
        rcases atWork_of_run hserved.2.of_append.1 hlate.atWork with hwork | hread
        · exact hwork
        · rw [hclock] at hread
          omega
      refine ⟨other, late, ⟨hwork, earlier, later, rfl, hlate⟩, ?_, hid, hearlier, hstale⟩
      rintro rfl
      have hidle : served.callers[other]? = some .idle := by
        show (Crowd.proceed _ other).callers[other]? = _
        rw [proceed_of_serves hserves]
        rcases hserves with ⟨stage, -⟩ | stage <;> exact callers_settle_self stage _
      rw [AtWork, hidle] at hwork
      cases hwork

/-- A visitor that was served just the idle period before the reading of a pass is kept. -/
theorem kept_unless_overtaken_of_one_caller :
    let c := opening .oneASecond .epoch 1
    let minute : Instant := ⟨60000000000, by decide⟩
    let before : List Move := [.call 0 "alice", .proceed 0, .proceed 0]
    let between : List Move := [.setClock minute, .startPass]
    let visiting := ((c.run before).step (.proceed 0)).run between
    c.NeverBack (before ++ .proceed 0 :: between) ∧
      (c.run before).Serves 0 ⟨"alice", .epoch⟩ ∧
      (c.run (before ++ .proceed 0 :: between)).passes[0]? = some minute ∧
      Instant.epoch.nanosecondsTo minute ≤ Limits.oneASecond.expiresIn.nanoseconds ∧
      visiting.store.contains "alice" = true ∧
      (visiting.step (.visit 0 "alice")).store = visiting.store := by
  intro c minute before between visiting
  have hback : c.NeverBack (before ++ .proceed 0 :: between) := by decide +kernel
  have hserves : (c.run before).Serves 0 ⟨"alice", .epoch⟩ := .inr (by decide +kernel)
  have hpass : (c.run (before ++ .proceed 0 :: between)).passes[0]? = some minute := by
    decide +kernel
  have hrecent :
      Instant.epoch.nanosecondsTo minute ≤ Limits.oneASecond.expiresIn.nanoseconds := by decide
  refine ⟨hback, hserves, hpass, hrecent, by decide +kernel, ?_⟩
  rcases kept_unless_overtaken .epoch 1 before between hback hserves hpass hrecent with
    hkept | ⟨other, late, ⟨-, earlier, later, hmoves, -⟩, -⟩
  · exact hkept
  · have hmem : Move.proceed other ∈ between := by rw [hmoves]; simp
    simp [between] at hmem

/-- **An overtaken call takes a visitor along.**  Whoever was idle for a minute is forgotten.  The
first caller reads the clock at the start, the second after fifty seconds, and is served; a pass
reads it after a hundred seconds.  Then the first caller is served, and puts the visitor back to
the start: the pass takes the visitor that was seen fifty seconds before its reading. -/
theorem overtaken_visitor_taken :
    let c := opening .oneASecond .epoch 2
    let seen : Instant := ⟨50000000000, by decide⟩
    let reading : Instant := ⟨100000000000, by decide⟩
    let before : List Move :=
      [.call 0 "alice", .setClock seen, .call 1 "alice", .proceed 1, .proceed 1]
    let between : List Move := [.setClock reading, .startPass, .proceed 0]
    let visiting := c.run (before ++ .proceed 1 :: between)
    c.NeverBack (before ++ .proceed 1 :: between) ∧
      (c.run before).Serves 1 ⟨"alice", seen⟩ ∧
      visiting.passes[0]? = some reading ∧
      seen.nanosecondsTo reading ≤ Limits.oneASecond.expiresIn.nanoseconds ∧
      visiting.store.contains "alice" = true ∧
      (visiting.step (.visit 0 "alice")).store.contains "alice" = false :=
  ⟨by decide +kernel, .inr (by decide +kernel), by decide +kernel, by decide, by decide +kernel,
    by decide +kernel⟩

end Crowd

end Admission
