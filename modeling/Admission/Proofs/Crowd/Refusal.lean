import Mathlib.Data.List.Induction
import Admission.Proofs.Crowd.Sections
import Admission.Proofs.Store.Capacity

/-!
# Who is refused when callers overlap

A call that finds its identifier is never refused: it is charged and over.  A call that does not
find it goes on to the check, and the check looks at the size of the store alone.  By then another
caller may have entered the same identifier, and may have filled the store with it; so the call
is refused although its identifier is tracked.  The entry would have found the visitor, but the
call does not get as far.

* `LookedUp` — a call has looked its identifier up, in vain, and waits for its check;
* `EnteredByOther` — somebody else enters an identifier in the course of some moves;
* `untracked_when_looked_up` — a call is refused only where its identifier was untracked when it
  was looked up, and is untracked at the check too unless somebody else entered it in between;
* `refused_while_tracked` — which happens.
-/

namespace Admission

namespace Crowd

/-- Somebody else than a caller enters an identifier in the course of moves. -/
def EnteredByOther (c : Crowd) (caller : Nat) (id : String) (moves : List Move) : Prop :=
  ∃ before other call after, moves = before ++ .proceed other :: after ∧ other ≠ caller ∧
    (c.run before).callers[other]? = some (.entering call) ∧ call.id = id

/-- In the course of moves a call has looked its identifier up, has not found it, and has not gone
on since. -/
def LookedUp (start : Crowd) (moves : List Move) (caller : Nat) (call : Call) : Prop :=
  ∃ before between, moves = before ++ .proceed caller :: between ∧
    (start.run before).callers[caller]? = some (.looking call) ∧
    (start.run before).store.contains call.id = false ∧
    .proceed caller ∉ between

variable {c start : Crowd} {caller : Nat} {call : Call} {id : String} {moves : List Move}

/-! ## How an identifier comes to be tracked -/

/-- An entry tracks its own identifier and no other. -/
theorem contains_enrolled (s : Store) (call : Call)
    (h : (s.enrolled call.id call.reading).state.contains id = true)
    (huntracked : s.contains id = false) : call.id = id := by
  apply Decidable.byContradiction
  intro hne
  rw [Store.enrolled_state, Store.contains, Store.visitor?_write_other s (Ne.symm hne)] at h
  rw [Store.contains, h] at huntracked
  cases huntracked

/-- Only an entry makes an identifier tracked. -/
theorem entered_of_contains_step {move : Move} (huntracked : c.store.contains id = false)
    (h : (c.step move).store.contains id = true) :
    ∃ other call, move = .proceed other ∧ c.callers[other]? = some (.entering call) ∧
      call.id = id := by
  have hsame : ∀ d : Crowd, d.store = c.store → d.store.contains id = true → False := by
    intro d hd htracked
    rw [hd, huntracked] at htracked
    cases htracked
  cases move with
  | setClock _ | startPass => exact (hsame _ rfl h).elim
  | call other name =>
    simp only [step] at h
    split at h <;> exact (hsame _ rfl h).elim
  | visit pass name =>
    simp only [step] at h
    split at h
    · exact absurd (Store.contains_of_visit h) (by simp [huntracked])
    · exact (hsame _ rfl h).elim
  | forget name => exact absurd (Store.contains_of_forget h) (by simp [huntracked])
  | clear => cases h
  | proceed other =>
    have hsection := section_proceed c other
    rw [step_proceed] at h
    generalize c.proceed other = d at h hsection
    cases hsection with
    | @charged call stage tracked =>
      have hid := contains_enrolled c.store call h huntracked
      rw [hid, huntracked] at tracked
      cases tracked
    | @entered call stage =>
      exact ⟨other, call, rfl, stage, contains_enrolled c.store call h huntracked⟩
    | missed | refused | passed | absent => exact (hsame _ rfl h).elim

/-- **Whoever comes to be tracked was entered.** -/
theorem entered_of_contains_run (huntracked : c.store.contains id = false)
    (h : (c.run moves).store.contains id = true) :
    ∃ before other call after, moves = before ++ .proceed other :: after ∧
      (c.run before).callers[other]? = some (.entering call) ∧ call.id = id := by
  induction moves generalizing c with
  | nil =>
    change c.store.contains id = true at h
    rw [huntracked] at h
    cases h
  | cons move rest ih =>
    cases hstep : (c.step move).store.contains id with
    | true =>
      obtain ⟨other, call, rfl, hstage, hid⟩ := entered_of_contains_step huntracked hstep
      exact ⟨[], other, call, rest, rfl, hstage, hid⟩
    | false =>
      obtain ⟨before, other, call, after, rfl, hstage, hid⟩ := ih hstep h
      exact ⟨move :: before, other, call, after, rfl, hstage, hid⟩

/-! ## How a call comes to its check, and to a refusal -/

/-- Whoever is before its check was there before the move, or has just looked up in vain. -/
theorem looking_of_step_checking {move : Move}
    (h : (c.step move).callers[caller]? = some (.checking call)) :
    c.callers[caller]? = some (.checking call) ∧ move ≠ .proceed caller ∨
      move = .proceed caller ∧ c.callers[caller]? = some (.looking call) ∧
        c.store.contains call.id = false := by
  have hafter := stageAfter_step c caller move
  generalize (c.step move).callers[caller]? = after at h hafter
  cases hafter with
  | kept waits => exact .inl ⟨h, waits⟩
  | missed stage untracked =>
    cases h
    exact .inr ⟨rfl, stage, untracked⟩
  | called | passed | settled | absent => cases h

/-- A call before its check has looked its identifier up in vain. -/
theorem lookedUp_of_checking (hstart : ∀ call, start.callers[caller]? ≠ some (.checking call))
    (h : (start.run moves).callers[caller]? = some (.checking call)) :
    LookedUp start moves caller call := by
  induction moves using List.reverseRecOn with
  | nil => exact (hstart call h).elim
  | append_singleton moves move ih =>
    rw [run_concat] at h
    rcases looking_of_step_checking h with ⟨hbefore, hother⟩ | ⟨rfl, hlooking, huntracked⟩
    · obtain ⟨before, between, rfl, hlooking, huntracked, hbetween⟩ := ih hbefore
      refine ⟨before, between ++ [move], by simp, hlooking, huntracked, ?_⟩
      intro hmem
      rcases List.mem_append.1 hmem with hmem | hmem
      · exact hbetween hmem
      · exact hother (List.mem_singleton.1 hmem).symm
    · exact ⟨moves, [], rfl, hlooking, huntracked, List.not_mem_nil⟩

/-- A call that fails was refused at its check. -/
theorem checking_of_step_error {move : Move} {o : Decided} {e : StoreError}
    (ho : o ∈ (c.step move).decided) (he : o.answer = .error e) :
    o ∈ c.decided ∨ move = .proceed o.caller ∧ c.callers[o.caller]? = some (.checking o.call) ∧
      ∃ limit, c.store.refusal? = some limit ∧ e = .capacityExceeded limit := by
  cases move with
  | setClock _ | startPass | forget _ | clear => exact .inl ho
  | visit pass name =>
    simp only [step] at ho
    split at ho <;> exact .inl ho
  | call other name =>
    simp only [step] at ho
    split at ho <;> exact .inl ho
  | proceed other =>
    have hsection := section_proceed c other
    rw [step_proceed] at ho
    generalize c.proceed other = d at ho hsection
    cases hsection with
    | missed | passed | absent => exact .inl ho
    | charged | entered =>
      rcases List.mem_cons.1 ho with rfl | hold
      · cases he
      · exact .inl hold
    | @refused call limit stage full =>
      rcases List.mem_cons.1 ho with rfl | hold
      · cases he
        exact .inr ⟨rfl, stage, limit, full, rfl⟩
      · exact .inl hold

/-- A failed call of a run was refused at its check, at some moment of the run. -/
theorem checking_of_run_error {o : Decided} {e : StoreError} (hstart : o ∉ start.decided)
    (ho : o ∈ (start.run moves).decided) (he : o.answer = .error e) :
    ∃ before after limit, moves = before ++ .proceed o.caller :: after ∧
      (start.run before).callers[o.caller]? = some (.checking o.call) ∧
      (start.run before).store.refusal? = some limit ∧ e = .capacityExceeded limit := by
  induction moves generalizing start with
  | nil => exact (hstart ho).elim
  | cons move rest ih =>
    by_cases hfirst : o ∈ (start.step move).decided
    · rcases checking_of_step_error hfirst he with hold | ⟨rfl, hstage, limit, hfull, rfl⟩
      · exact (hstart hold).elim
      · exact ⟨[], rest, limit, rfl, hstage, hfull, rfl⟩
    · obtain ⟨before, after, limit, rfl, hstage, hfull, rfl⟩ := ih hfirst ho
      exact ⟨move :: before, after, limit, rfl, hstage, hfull, rfl⟩

/-! ## Refusals -/

/-- A lookup in vain leaves the store alone. -/
theorem contains_looked (hlooking : c.callers[caller]? = some (.looking call))
    (huntracked : c.store.contains call.id = false) :
    (c.step (.proceed caller)).store.contains call.id = false := by
  rw [step_proceed, proceed_of_untracked hlooking huntracked]
  exact huntracked

/-- **An identifier that is tracked when it is looked up is not refused.**  Whenever a call fails,
it was refused for the cap at a check that found the store full.  Its identifier was untracked
when the call looked it up; and it is untracked at the check as well, unless another caller has
entered it in between. -/
theorem untracked_when_looked_up {limits : Limits} {cap : Nat}
    (hcap : limits.maxVisitors = some cap) (now : Instant) (callers : Nat) (moves : List Move)
    {o : Decided} {e : StoreError}
    (ho : o ∈ ((opening limits now callers).run moves).decided) (he : o.answer = .error e) :
    ∃ before between after,
      moves = before ++ .proceed o.caller :: (between ++ .proceed o.caller :: after) ∧
      .proceed o.caller ∉ between ∧
      let looking := (opening limits now callers).run before
      let looked := looking.step (.proceed o.caller)
      let checking := looked.run between
      looking.callers[o.caller]? = some (.looking o.call) ∧
      looking.store.contains o.call.id = false ∧
      checking.callers[o.caller]? = some (.checking o.call) ∧
      (e = .capacityExceeded cap ∧ cap ≤ checking.store.size) ∧
      (checking.store.contains o.call.id = false ∨
        looked.EnteredByOther o.caller o.call.id between) := by
  have hidle : ∀ call,
      (opening limits now callers).callers[o.caller]? ≠ some (.checking call) := by
    intro call h
    cases List.eq_of_mem_replicate (List.mem_of_getElem? h)
  obtain ⟨checked, after, limit, rfl, hchecking, hfull, rfl⟩ :=
    checking_of_run_error List.not_mem_nil ho he
  obtain ⟨before, between, rfl, hlooking, huntracked, hbetween⟩ :=
    lookedUp_of_checking hidle hchecking
  rw [run_append] at hchecking hfull
  obtain ⟨hlimit, hsize⟩ := Store.refusal?_eq_some_iff.1 hfull
  rw [run_limits, run_limits] at hlimit
  obtain rfl : cap = limit := Option.some.inj (hcap.symm.trans hlimit)
  refine ⟨before, between, after, by simp, hbetween, hlooking, huntracked, hchecking,
    ⟨rfl, hsize⟩, ?_⟩
  cases htracked : ((((opening limits now callers).run before).step
      (.proceed o.caller)).run between).store.contains o.call.id with
  | false => exact .inl rfl
  | true =>
    obtain ⟨earlier, other, call, later, rfl, hentering, hid⟩ :=
      entered_of_contains_run (contains_looked hlooking huntracked) htracked
    refine .inr ⟨earlier, other, call, later, rfl, ?_, hentering, hid⟩
    rintro rfl
    exact hbetween (by simp)

/-- A second identifier is refused while the first one has the only place, and it was untracked
when it was looked up. -/
theorem untracked_when_looked_up_of_full_store :
    let c := opening .oneVisitor .epoch 2
    let filling : List Move := [.call 0 "alice", .proceed 0, .proceed 0, .proceed 0,
      .call 1 "bob", .proceed 1]
    Limits.oneVisitor.maxVisitors = some 1 ∧
      ∃ o ∈ (c.run (filling ++ [.proceed 1])).decided,
        o.answer = .error (.capacityExceeded 1) ∧
        ∃ before rest, filling ++ [.proceed 1] = before ++ .proceed o.caller :: rest ∧
          (c.run before).store.contains o.call.id = false := by
  intro c filling
  have hcap : Limits.oneVisitor.maxVisitors = some 1 := rfl
  have hstage : (c.run filling).callers[1]? = some (.checking ⟨"bob", .epoch⟩) := by
    decide +kernel
  have hfull : (c.run filling).store.refusal? = some 1 := by decide +kernel
  obtain ⟨o, ho, he⟩ : ∃ o ∈ (c.run (filling ++ [.proceed 1])).decided,
      o.answer = .error (.capacityExceeded 1) := by
    rw [run_concat, step_proceed, proceed_of_full hstage hfull]
    exact ⟨_, List.mem_cons_self, rfl⟩
  obtain ⟨before, between, after, hmoves, -, -, huntracked, -⟩ :=
    untracked_when_looked_up hcap .epoch 2 _ ho he
  exact ⟨hcap, o, ho, he, before, _, hmoves, huntracked⟩

/-- Two callers come with the same new identifier, and both look it up in vain.  The second enters
it and takes the only place; at the check of the first the identifier is tracked, and it is
refused for the cap. -/
theorem refused_while_tracked :
    let checking := (opening .oneVisitor .epoch 2).run [.call 0 "alice", .call 1 "alice",
      .proceed 0, .proceed 1, .proceed 1, .proceed 1]
    checking.callers[0]? = some (.checking ⟨"alice", .epoch⟩) ∧
      checking.store.contains "alice" = true ∧
      ∃ o ∈ (checking.step (.proceed 0)).decided, o.caller = 0 ∧ o.call = ⟨"alice", .epoch⟩ ∧
        o.answer = .error (.capacityExceeded 1) := by
  intro checking
  have hstage : checking.callers[0]? = some (.checking ⟨"alice", .epoch⟩) := by decide +kernel
  have hfull : checking.store.refusal? = some 1 := by decide +kernel
  refine ⟨hstage, by decide +kernel, ?_⟩
  rw [step_proceed, proceed_of_full hstage hfull]
  exact ⟨_, List.mem_cons_self, rfl, rfl, rfl⟩

end Crowd
end Admission
