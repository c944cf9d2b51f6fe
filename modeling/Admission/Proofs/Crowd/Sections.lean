import Admission.Crowd
import Admission.Proofs.Store.Soundness

/-!
# What the sections of a call do

A call moves on section by section, and this file says once what each section can do; what is
known of crowds is read off from that.  It also says that the moves of a crowd are what the
operations of a store are made of: a call that nobody interrupts is one decision, and a pass that
comes to everybody, in whatever order, is one pass.

* `Section`, `section_proceed` — the six things that can come of a caller's next section;
* `StageAfter`, `stageAfter_step` — the six things that a move can make of one caller;
* `run_of_uninterrupted` — three sections in a row are one decision;
* `foldl_visit_eq_withoutStale`, `foldl_forget_eq_clear` — visits to everybody are one pass, and
  so for clearing;
* `exists_run_of_reachable` — so a crowd can do to a store what is done by one caller at a time;
* `sound_run` — whatever it does, it leaves the visitors sound.
-/

namespace Admission

namespace Store

variable {s : Store} {id : String}

/-! ## Passes and clearings, one identifier after the other -/

theorem eq_of_entries {s t : Store} (hlimits : s.limits = t.limits)
    (hentries : s.visitors.entries = t.visitors.entries) : s = t := by
  obtain ⟨limits, entries, distinct⟩ := s
  obtain ⟨limits', entries', distinct'⟩ := t
  dsimp only at hlimits hentries
  subst hlimits hentries
  rfl

/-- An operation that comes to one identifier and drops its visitor if that passes a test. -/
def DropsIf (limits : Limits) (drop : Visitor → Bool) (op : Store → String → Store) : Prop :=
  ∀ s id, s.limits = limits → (op s id).limits = limits ∧
    (op s id).visitors.entries =
      s.visitors.entries.filter fun e => !(decide (e.1 = id) && drop e.2)

/-- Who is left when such an operation has come to some identifiers. -/
theorem DropsIf.foldl {limits : Limits} {drop : Visitor → Bool} {op : Store → String → Store}
    (h : DropsIf limits drop op) (ids : List String) {s : Store} (hs : s.limits = limits) :
    (ids.foldl op s).limits = limits ∧
      (ids.foldl op s).visitors.entries =
        s.visitors.entries.filter fun e => !(decide (e.1 ∈ ids) && drop e.2) := by
  induction ids generalizing s with
  | nil =>
    refine ⟨hs, (List.filter_eq_self.2 ?_).symm⟩
    simp
  | cons id rest ih =>
    obtain ⟨hlimits, hentries⟩ := h s id hs
    obtain ⟨hlimits', hentries'⟩ := ih hlimits
    refine ⟨hlimits', ?_⟩
    rw [List.foldl_cons, hentries', hentries, List.filter_filter]
    refine List.filter_congr fun e _ => ?_
    by_cases hid : e.1 = id <;> cases drop e.2 <;> simp [hid]

/-- When it has come to everybody, nobody is left who passes the test. -/
theorem DropsIf.foldl_eq_filter {drop : Visitor → Bool} {op : Store → String → Store} (s : Store)
    (h : DropsIf s.limits drop op) {ids : List String} (hall : ∀ id ∈ s.visitors.keys, id ∈ ids) :
    ids.foldl op s = { s with visitors := s.visitors.filter fun v => !drop v } := by
  obtain ⟨hlimits, hentries⟩ := h.foldl ids rfl
  refine eq_of_entries hlimits (hentries.trans (List.filter_congr fun e he => ?_))
  have hid : e.1 ∈ ids := hall e.1 (List.mem_map_of_mem he)
  simp [hid]

theorem dropsIf_visit (limits : Limits) (reading : Instant) :
    DropsIf limits (fun v => v.isStale reading limits.expiresIn)
      (fun s id => s.visit id reading) := by
  rintro s id rfl
  refine ⟨visit_limits s id reading, ?_⟩
  have hentry : ∀ e ∈ s.visitors.entries, e.1 = id → s.visitor? id = some e.2 := by
    rintro e he rfl
    exact s.visitors.lookup_of_mem he
  unfold visit
  dsimp only
  split
  · next hstale =>
    refine List.filter_congr fun e he => ?_
    by_cases hid : e.1 = id
    · rw [hentry e he hid] at hstale
      simpa [hid] using hstale
    · simp [hid]
  · next hkept =>
    refine (List.filter_eq_self.2 fun e he => ?_).symm
    by_cases hid : e.1 = id
    · rw [hentry e he hid] at hkept
      simpa [hid] using hkept
    · simp [hid]

/-- **A pass may come to everybody, one after the other**, in whatever order. -/
theorem foldl_visit_eq_withoutStale (s : Store) (reading : Instant) {ids : List String}
    (hall : ∀ id ∈ s.visitors.keys, id ∈ ids) :
    ids.foldl (fun s id => s.visit id reading) s = s.withoutStale reading :=
  (dropsIf_visit s.limits reading).foldl_eq_filter s hall

/-- **So may a clearing.** -/
theorem foldl_forget_eq_clear (s : Store) {ids : List String}
    (hall : ∀ id ∈ s.visitors.keys, id ∈ ids) : ids.foldl forget s = s.clear := by
  have hforget : DropsIf s.limits (fun _ => true) forget := by
    intro t id ht
    refine ⟨ht, List.filter_congr fun e _ => ?_⟩
    simp
  rw [hforget.foldl_eq_filter s hall]
  exact eq_of_entries rfl (List.filter_eq_nil_iff.2 fun e _ => by simp)

end Store

namespace Crowd

variable {c : Crowd} {caller other : Nat} {stage : Stage} {call : Call}

/-- A caller that comes to another stage is there. -/
theorem callers_become_self (h : c.callers[caller]? = some stage) (next : Stage) :
    (c.become caller next).callers[caller]? = some next := by
  obtain ⟨hlt, -⟩ := List.getElem?_eq_some_iff.1 h
  exact List.getElem?_set_self hlt

theorem callers_become_other (h : other ≠ caller) :
    (c.become caller stage).callers[other]? = c.callers[other]? :=
  List.getElem?_set_ne h.symm

theorem callers_settle_self (h : c.callers[caller]? = some stage) (reply : Reply Store) :
    (c.settle caller call reply).callers[caller]? = some .idle :=
  callers_become_self h .idle

/-- A caller that comes to another stage is counted there and no longer where it was. -/
theorem countP_become (p : Stage → Bool) (h : c.callers[caller]? = some stage) (next : Stage) :
    (c.become caller next).callers.countP p + (p stage).toNat =
      c.callers.countP p + (p next).toNat := by
  obtain ⟨hlt, hstage⟩ := List.getElem?_eq_some_iff.1 h
  have hcounted : (p stage).toNat ≤ c.callers.countP p := by
    cases hp : p stage with
    | false => exact Nat.zero_le _
    | true => exact List.countP_pos_iff.2 ⟨stage, List.mem_of_getElem? h, hp⟩
  have hset : (c.become caller next).callers.countP p =
      c.callers.countP p - (p stage).toNat + (p next).toNat := by
    unfold become
    rw [List.countP_set hlt, hstage]
    cases p stage <;> cases p next <;> rfl
  omega

theorem settle_become (c : Crowd) (caller : Nat) (stage : Stage) (call : Call)
    (reply : Reply Store) :
    (c.become caller stage).settle caller call reply = c.settle caller call reply := by
  simp [settle, become]

/-! ## The sections -/

theorem proceed_of_idle (h : c.callers[caller]? = some .idle) : c.proceed caller = c := by
  simp only [proceed, h]

/-- A call that finds its identifier is over at once. -/
theorem proceed_of_tracked (h : c.callers[caller]? = some (.looking call))
    (htracked : c.store.contains call.id = true) :
    c.proceed caller = c.settle caller call (c.store.enrolled call.id call.reading) := by
  obtain ⟨allowed, t, hcharge, hreply⟩ := Store.charge?_of_contains htracked call.reading
  simp only [proceed, h, hcharge, hreply]

theorem proceed_of_untracked (h : c.callers[caller]? = some (.looking call))
    (huntracked : c.store.contains call.id = false) :
    c.proceed caller = c.become caller (.checking call) := by
  simp only [proceed, h, Store.charge?_of_not_contains huntracked]

theorem proceed_of_full {limit : Nat} (h : c.callers[caller]? = some (.checking call))
    (hfull : c.store.refusal? = some limit) :
    c.proceed caller = c.settle caller call (c.store.turnedAway call.id limit) := by
  simp only [proceed, h, hfull]

theorem proceed_of_room (h : c.callers[caller]? = some (.checking call))
    (hroom : c.store.refusal? = none) :
    c.proceed caller = c.become caller (.entering call) := by
  simp only [proceed, h, hroom]

theorem proceed_of_entering (h : c.callers[caller]? = some (.entering call)) :
    c.proceed caller = c.settle caller call (c.store.enrolled call.id call.reading) := by
  simp only [proceed, h]

/-- What can come of a caller's next section. -/
inductive Section (c : Crowd) (caller : Nat) : Crowd → Prop
  | charged {call : Call} (stage : c.callers[caller]? = some (.looking call))
      (tracked : c.store.contains call.id = true) :
      Section c caller (c.settle caller call (c.store.enrolled call.id call.reading))
  | missed {call : Call} (stage : c.callers[caller]? = some (.looking call))
      (untracked : c.store.contains call.id = false) :
      Section c caller (c.become caller (.checking call))
  | refused {call : Call} {limit : Nat} (stage : c.callers[caller]? = some (.checking call))
      (full : c.store.refusal? = some limit) :
      Section c caller (c.settle caller call (c.store.turnedAway call.id limit))
  | passed {call : Call} (stage : c.callers[caller]? = some (.checking call))
      (room : c.store.refusal? = none) :
      Section c caller (c.become caller (.entering call))
  | entered {call : Call} (stage : c.callers[caller]? = some (.entering call)) :
      Section c caller (c.settle caller call (c.store.enrolled call.id call.reading))
  | absent (stage : c.callers[caller]? = none ∨ c.callers[caller]? = some .idle) :
      Section c caller c

/-- **The next section of a call is one of these.** -/
theorem section_proceed (c : Crowd) (caller : Nat) : Section c caller (c.proceed caller) := by
  cases hstage : c.callers[caller]? with
  | none =>
    have hstay : c.proceed caller = c := by simp only [proceed, hstage]
    rw [hstay]
    exact .absent (.inl hstage)
  | some stage =>
    cases stage with
    | idle =>
      rw [proceed_of_idle hstage]
      exact .absent (.inr hstage)
    | looking call =>
      cases htracked : c.store.contains call.id with
      | true =>
        rw [proceed_of_tracked hstage htracked]
        exact .charged hstage htracked
      | false =>
        rw [proceed_of_untracked hstage htracked]
        exact .missed hstage htracked
    | checking call =>
      cases hrefusal : c.store.refusal? with
      | some limit =>
        rw [proceed_of_full hstage hrefusal]
        exact .refused hstage hrefusal
      | none =>
        rw [proceed_of_room hstage hrefusal]
        exact .passed hstage hrefusal
    | entering call =>
      rw [proceed_of_entering hstage]
      exact .entered hstage

@[simp] theorem proceed_limits (c : Crowd) (caller : Nat) :
    (c.proceed caller).store.limits = c.store.limits := by
  have h := section_proceed c caller
  generalize c.proceed caller = d at h
  cases h <;> rfl

@[simp] theorem step_proceed (c : Crowd) (caller : Nat) :
    c.step (.proceed caller) = c.proceed caller := rfl

/-- No move changes the limits. -/
@[simp] theorem step_limits (c : Crowd) (move : Move) :
    (c.step move).store.limits = c.store.limits := by
  cases move with
  | setClock _ | startPass | forget _ | clear => rfl
  | call caller id =>
    simp only [step]
    split <;> rfl
  | proceed caller => exact proceed_limits c caller
  | visit pass id =>
    simp only [step]
    split
    · exact Store.visit_limits c.store id _
    · rfl

@[simp] theorem length_callers_proceed (c : Crowd) (caller : Nat) :
    (c.proceed caller).callers.length = c.callers.length := by
  have h := section_proceed c caller
  generalize c.proceed caller = d at h
  cases h with
  | charged | missed | refused | passed | entered => exact List.length_set
  | absent => rfl

/-- Nobody joins the callers and nobody leaves. -/
@[simp] theorem length_callers_step (c : Crowd) (move : Move) :
    (c.step move).callers.length = c.callers.length := by
  cases move with
  | setClock _ | startPass | forget _ | clear => rfl
  | call caller id =>
    simp only [step]
    split
    · exact List.length_set
    · rfl
  | proceed caller => exact length_callers_proceed c caller
  | visit pass id =>
    simp only [step]
    split <;> rfl

/-- A caller stays where it is while another goes on. -/
theorem callers_proceed_other (h : caller ≠ other) :
    (c.proceed other).callers[caller]? = c.callers[caller]? := by
  have hsection := section_proceed c other
  generalize c.proceed other = d at hsection
  cases hsection with
  | charged | missed | refused | passed | entered => exact callers_become_other h
  | absent => rfl

/-- What a move can make of one caller: what stage it is at afterwards, if it exists. -/
inductive StageAfter (c : Crowd) (caller : Nat) : Move → Option Stage → Prop
  | kept {move : Move} (waits : move ≠ .proceed caller) :
      StageAfter c caller move c.callers[caller]?
  | called (id : String) (stage : c.callers[caller]? = some .idle) :
      StageAfter c caller (.call caller id) (some (.looking ⟨id, c.clock⟩))
  | missed {call : Call} (stage : c.callers[caller]? = some (.looking call))
      (untracked : c.store.contains call.id = false) :
      StageAfter c caller (.proceed caller) (some (.checking call))
  | passed {call : Call} (stage : c.callers[caller]? = some (.checking call))
      (room : c.store.refusal? = none) :
      StageAfter c caller (.proceed caller) (some (.entering call))
  | settled : StageAfter c caller (.proceed caller) (some .idle)
  | absent : StageAfter c caller (.proceed caller) none

/-- **This is all that a move makes of a caller.**  Its calls and its sections take it on, and
nothing else does. -/
theorem stageAfter_step (c : Crowd) (caller : Nat) (move : Move) :
    StageAfter c caller move (c.step move).callers[caller]? := by
  cases move with
  | setClock _ | startPass | forget _ | clear => exact .kept Move.noConfusion
  | visit pass id =>
    simp only [step]
    split <;> exact .kept Move.noConfusion
  | call other id =>
    simp only [step]
    split
    · next stage =>
      by_cases hother : caller = other
      · subst hother
        rw [callers_become_self stage]
        exact .called id stage
      · rw [callers_become_other hother]
        exact .kept Move.noConfusion
    · exact .kept Move.noConfusion
  | proceed other =>
    rw [step_proceed]
    by_cases hother : caller = other
    · subst hother
      have hsection := section_proceed c caller
      generalize c.proceed caller = d at hsection
      cases hsection with
      | missed stage untracked =>
        rw [callers_become_self stage]
        exact .missed stage untracked
      | passed stage room =>
        rw [callers_become_self stage]
        exact .passed stage room
      | charged stage | refused stage | entered stage =>
        rw [callers_settle_self stage]
        exact .settled
      | absent stage =>
        rcases stage with stage | stage <;> rw [stage]
        · exact .absent
        · exact .settled
    · rw [callers_proceed_other hother]
      exact .kept fun hmove => hother (Move.proceed.inj hmove).symm

/-! ## Runs -/

theorem run_append (c : Crowd) (first rest : List Move) :
    c.run (first ++ rest) = (c.run first).run rest :=
  List.foldl_append

/-- The last move comes upon what the others lead to. -/
theorem run_concat (c : Crowd) (moves : List Move) (last : Move) :
    c.run (moves ++ [last]) = (c.run moves).step last :=
  run_append c moves [last]

@[simp] theorem run_limits (c : Crowd) (moves : List Move) :
    (c.run moves).store.limits = c.store.limits := by
  induction moves generalizing c with
  | nil => rfl
  | cons move rest ih => exact (ih (c.step move)).trans (step_limits c move)

theorem length_callers_run (c : Crowd) (moves : List Move) :
    (c.run moves).callers.length = c.callers.length := by
  induction moves generalizing c with
  | nil => rfl
  | cons move rest ih => exact (ih (c.step move)).trans (length_callers_step c move)

/-- **Three sections in a row are one decision.** -/
theorem run_of_uninterrupted (h : c.callers[caller]? = some (.looking call)) :
    c.run [.proceed caller, .proceed caller, .proceed caller] =
      c.settle caller call (c.store.allow call.id call.reading) := by
  have hstay : ∀ reply, (c.settle caller call reply).proceed caller =
      c.settle caller call reply := fun reply => proceed_of_idle (callers_settle_self h reply)
  have hchecking := callers_become_self h (.checking call)
  show ((c.proceed caller).proceed caller).proceed caller = _
  cases htracked : c.store.contains call.id with
  | true =>
    have hserved := Store.refused_of_contains htracked
    rw [proceed_of_tracked h htracked, Store.allow_eq_enrolled hserved, hstay, hstay]
  | false =>
    have hrefused := Store.refused_of_not_contains htracked
    rw [proceed_of_untracked h htracked]
    cases hrefusal : c.store.refusal? with
    | some limit =>
      rw [hrefusal] at hrefused
      rw [proceed_of_full hchecking hrefusal, settle_become, Store.allow_eq_turnedAway hrefused]
      exact hstay _
    | none =>
      rw [hrefusal] at hrefused
      have hentering := callers_become_self hchecking (.entering call)
      rw [proceed_of_room hchecking hrefusal, proceed_of_entering hentering, settle_become,
        settle_become, Store.allow_eq_enrolled hrefused]
      rfl

/-! ## The stores of crowds -/

theorem sound_proceed {c : Crowd} (h : c.store.Sound) (caller : Nat) :
    (c.proceed caller).store.Sound := by
  have hsection := section_proceed c caller
  generalize c.proceed caller = d at hsection
  cases hsection with
  | charged | entered => exact h.enrolled _ _
  | missed | refused | passed | absent => exact h

theorem sound_step {c : Crowd} (h : c.store.Sound) (move : Move) : (c.step move).store.Sound := by
  cases move with
  | setClock _ | startPass => exact h
  | call caller name =>
    simp only [step]
    split <;> exact h
  | proceed caller => exact sound_proceed h caller
  | visit pass name =>
    simp only [step]
    split
    · exact h.visit name _
    · exact h
  | forget name => exact h.forget name
  | clear => exact Store.sound_clear _

theorem sound_run {c : Crowd} (h : c.store.Sound) (moves : List Move) :
    (c.run moves).store.Sound := by
  induction moves generalizing c with
  | nil => exact h
  | cons move rest ih => exact ih (sound_step h move)

/-- A pass that comes to some identifiers, one after the other. -/
theorem run_visits {c : Crowd} {pass : Nat} {reading : Instant}
    (hpass : c.passes[pass]? = some reading) (ids : List String) :
    c.run (ids.map (.visit pass)) =
      { c with store := ids.foldl (fun s id => s.visit id reading) c.store } := by
  induction ids generalizing c with
  | nil => rfl
  | cons id rest ih =>
    have hvisit : c.step (.visit pass id) = { c with store := c.store.visit id reading } := by
      simp only [step, hpass]
    show (c.step (.visit pass id)).run (rest.map (.visit pass)) = _
    rw [hvisit]
    exact ih (c := { c with store := c.store.visit id reading }) hpass

/-- **A store that was used by one caller at a time** is one that callers come to together, all of
them idle again, and at whatever time. -/
theorem exists_run_of_reachable {limits : Limits} {s : Store} (h : Store.Reachable limits s)
    (start : Instant) {callers : Nat} (hcallers : 0 < callers) (now : Instant) :
    ∃ moves, ((opening limits start callers).run moves).store = s ∧
      ((opening limits start callers).run moves).clock = now ∧
      ((opening limits start callers).run moves).callers = List.replicate callers .idle := by
  induction h generalizing now with
  | empty => exact ⟨[.setClock now], rfl, rfl, rfl⟩
  | @allow s id reading _ ih =>
    obtain ⟨moves, hstore, hclock, hidle⟩ := ih reading
    generalize hc : (opening limits start callers).run moves = c at hstore hclock hidle
    have hfirst : c.callers[0]? = some .idle := by
      rw [hidle, List.getElem?_replicate, if_pos hcallers]
    have hlooking := callers_become_self hfirst (.looking ⟨id, reading⟩)
    have hcall : c.step (.call 0 id) = c.become 0 (.looking ⟨id, reading⟩) := by
      simp only [step, hfirst, hclock]
    refine ⟨moves ++ [.call 0 id] ++ [.proceed 0, .proceed 0, .proceed 0] ++ [.setClock now], ?_⟩
    rw [run_concat, run_append, run_concat, hc, hcall, run_of_uninterrupted hlooking,
      settle_become]
    refine ⟨?_, rfl, ?_⟩
    · show (c.store.allow id reading).state = _
      rw [hstore]
    · show c.callers.set 0 .idle = _
      rw [hidle, List.set_replicate_self]
  | @reclaim s reading _ ih =>
    obtain ⟨moves, hstore, hclock, hidle⟩ := ih reading
    generalize hc : (opening limits start callers).run moves = c at hstore hclock hidle
    have hpass : (c.step .startPass).passes[c.passes.length]? = some reading := by
      show (c.passes ++ [c.clock])[c.passes.length]? = some reading
      rw [List.getElem?_concat_length, hclock]
    refine ⟨moves ++ [.startPass] ++ s.visitors.keys.map (.visit c.passes.length) ++
      [.setClock now], ?_⟩
    rw [run_concat, run_append, run_concat, hc, run_visits hpass]
    refine ⟨?_, rfl, hidle⟩
    show s.visitors.keys.foldl (fun s id => s.visit id reading) c.store = _
    rw [hstore]
    exact Store.foldl_visit_eq_withoutStale s reading fun id hid => hid
  | clear _ ih =>
    obtain ⟨moves, hstore, hclock, hidle⟩ := ih now
    refine ⟨moves ++ [.clear], ?_⟩
    rw [run_concat]
    exact ⟨congrArg Store.clear hstore, hclock, hidle⟩

end Crowd
end Admission
