import Admission.Proofs.Session.History
import Admission.Proofs.Store.Absorption
import Mathlib.Data.Finset.Card

/-!
# Who is left after a pass

A visitor was last seen when its identifier was last served, whatever happened in between, so a pass
tells the recent identifiers from the others.  In a run whose clock never moves back, without
clearings, earlier passes have dropped nobody whom the last one would have kept: who is left is a
matter of the requests alone, and not of the passes that were made.

* `Command.singly`, `run_singly` — many requests, told one by one;
* `lastServed?`, `recent` — the last reading at which an identifier was served, and who was served
  within the idle period;
* `Dated`, `Lasting` — what the tracked and the recent have to do with one another, kept by every
  command;
* `tracked_reclaimed`, `tracked_reclaimed_of_lasting` — who is left after a pass;
* `passes_exact_and_absorbing` — passes over stores, and over the stores of runs.
-/

namespace Admission

/-- The requests of a command, told one by one. -/
def Command.singly : Command → List Command
  | .allowMany id count => List.replicate count (.allow id)
  | command => [command]

/-- A command that asks for no more than one decision. -/
def Command.IsSingle (command : Command) : Prop :=
  ∀ id count, command ≠ .allowMany id count

theorem Command.isSingle_of_mem_singly {command single : Command} (h : single ∈ command.singly) :
    single.IsSingle := by
  intro id count
  rintro rfl
  cases command <;> simp [singly] at h

theorem Command.clear_mem_singly {command : Command} :
    Command.clear ∈ command.singly ↔ command = .clear := by
  cases command <;> simp [singly]

/-- The identifier of a request that was served. -/
def Entry.customer? (e : Entry) : Option String :=
  match e.command, e.answer with
  | .allow id, .decision (.ok _) => some id
  | _, _ => none

/-- The reading of the clock when the identifier was last served. -/
def lastServed? (id : String) (past : List Entry) : Option Instant :=
  (services id past).getLast?.map Prod.fst

/-- The identifiers that were last served no more than the idle period before `t`. -/
def recent (expiresIn : Duration) (t : Instant) (past : List Entry) : Finset String :=
  (past.filterMap Entry.customer?).toFinset.filter fun id =>
    ∃ seen ∈ lastServed? id past, t.sinceEpoch - expiresIn.nanoseconds ≤ seen.sinceEpoch

section

variable {id : String} {past : List Entry} {e : Entry}

theorem Entry.customer?_eq_some_of_served {allowed : Bool} (h : e.served? id = some allowed) :
    e.customer? = some id := by
  unfold served? at h
  split at h
  · next hcommand hanswer =>
    split at h
    · next hid => rw [customer?, hcommand, hanswer, hid]
    · cases h
  · cases h

theorem lastServed?_concat_of_served {allowed : Bool} (h : e.served? id = some allowed) :
    lastServed? id (past ++ [e]) = some e.reading := by
  rw [lastServed?, services_concat_of_served h, List.getLast?_concat, Option.map_some]

theorem lastServed?_concat_of_unserved (h : e.served? id = none) :
    lastServed? id (past ++ [e]) = lastServed? id past := by
  rw [lastServed?, services_concat_of_unserved h, lastServed?]

/-- Whoever was served at all is among the customers. -/
theorem mem_customers_of_lastServed? {seen : Instant} (h : lastServed? id past = some seen) :
    id ∈ past.filterMap Entry.customer? := by
  obtain ⟨service, hlast, -⟩ := Option.map_eq_some_iff.1 h
  obtain ⟨e, he, hservice⟩ := List.mem_filterMap.1 (List.mem_of_getLast? hlast)
  obtain ⟨allowed, hallowed, -⟩ := Option.map_eq_some_iff.1 hservice
  exact List.mem_filterMap.2 ⟨e, he, Entry.customer?_eq_some_of_served hallowed⟩

theorem mem_recent {expiresIn : Duration} {t : Instant} : id ∈ recent expiresIn t past ↔
    ∃ seen, lastServed? id past = some seen ∧
      t.sinceEpoch - expiresIn.nanoseconds ≤ seen.sinceEpoch := by
  rw [recent, Finset.mem_filter, List.mem_toFinset]
  constructor
  · exact And.right
  · rintro ⟨seen, hlast, hrecent⟩
    exact ⟨mem_customers_of_lastServed? hlast, seen, hlast, hrecent⟩

end

namespace Store

/-- The identifiers that are tracked. -/
def tracked (s : Store) : Finset String :=
  s.visitors.keys.toFinset

variable {s : Store}

theorem mem_tracked {id : String} : id ∈ s.tracked ↔ ∃ v, s.visitor? id = some v := by
  rw [tracked, List.mem_toFinset, ← contains_iff_mem_keys, contains, Option.isSome_iff_exists]

/-- No identifier is tracked twice. -/
theorem card_tracked (s : Store) : s.tracked.card = s.size := by
  have hcard : s.tracked.card = s.visitors.keys.length :=
    List.toFinset_card_of_nodup s.visitors.distinct
  rw [hcard, ← Roster.size_eq_length_keys, size]

/-- So many passes at one reading keep whoever is not stale then. -/
theorem visitor?_passes_of_fresh {clock : Instant} {id : String} {v : Visitor}
    (hv : s.visitor? id = some v) (hfresh : v.isStale clock s.limits.expiresIn = false) (n : Nat) :
    (Reclaimer.passes s clock n).1.visitor? id = some v := by
  induction n generalizing s with
  | zero => exact hv
  | succ n ih =>
    have hfirst : (s.reclaimed clock).visitor? id = some v :=
      visitor?_reclaimed_eq_some_iff.2 ⟨hv, hfresh⟩
    exact ih hfirst hfresh

end Store

namespace Session

/-! ## Requests one by one -/

theorem run_append (s : Session) (first rest : List Command) :
    (s.run (first ++ rest)).1 = ((s.run first).1.run rest).1 := by
  induction first generalizing s with
  | nil => rfl
  | cons command first ih => exact ih (s.step command).1

/-- A command does to a session what its requests do one by one. -/
theorem run_singly_step (s : Session) (command : Command) :
    (s.run command.singly).1 = (s.step command).1 := by
  cases command with
  | allowMany id count =>
    induction count generalizing s with
    | zero =>
      obtain ⟨clock, store, elapsed, reclaimer⟩ := s
      cases store <;> rfl
    | succ count ih =>
      have hrest := ih (s.step (.allow id)).1
      have hmany : (s.step (.allowMany id (count + 1))).1 =
          ((s.step (.allow id)).1.step (.allowMany id count)).1 := by
        cases hs : s.store <;> simp [step, hs, stepStore, Store.allowMany]
      rw [hmany, ← hrest]
      rfl
  | _ => rfl

/-- **A run is the run of its requests one by one.** -/
theorem run_singly (s : Session) (commands : List Command) :
    (s.run (commands.flatMap Command.singly)).1 = (s.run commands).1 := by
  induction commands generalizing s with
  | nil => rfl
  | cons command rest ih =>
    rw [List.flatMap_cons, run_append, run_singly_step, ih, run_cons]

theorem neverBack_replicate_append (now : Instant) (id : String) (count : Nat)
    (rest : List Command) :
    NeverBack now (List.replicate count (.allow id) ++ rest) ↔ NeverBack now rest := by
  induction count with
  | zero => exact Iff.rfl
  | succ count ih => exact (and_iff_right (Int.le_refl _)).trans ih

/-- The clock moves the same way when requests are told one by one. -/
theorem neverBack_singly (now : Instant) (commands : List Command) :
    NeverBack now (commands.flatMap Command.singly) ↔ NeverBack now commands := by
  induction commands generalizing now with
  | nil => exact Iff.rfl
  | cons command rest ih =>
    rw [List.flatMap_cons]
    cases command with
    | allowMany id count =>
      exact (neverBack_replicate_append now id count _).trans
        ((ih now).trans (and_iff_right (Int.le_refl _)).symm)
    | _ => exact and_congr Iff.rfl (ih _)

/-! ## The tracked and the recent -/

/-- The entry of a command that is run now. -/
def entry (s : Session) (command : Command) : Entry :=
  ⟨s.clock, command, (s.step command).2.1⟩

variable {s : Session} {store : Store} {past : List Entry} {command : Command}

/-- A command other than a request serves nobody. -/
theorem served?_entry (hallow : ∀ id, command ≠ .allow id) (id : String) :
    (s.entry command).served? id = none := by
  cases command with
  | allow other => exact absurd rfl (hallow other)
  | _ => rfl

/-- The entry of a request that is refused, or served. -/
theorem served?_entry_allow (hstore : s.store = some store) (id other : String) :
    (s.entry (.allow other)).served? id =
      if other = id ∧ store.refused other = none then some (store.served other s.clock).1
      else none := by
  have hanswer : (s.step (.allow other)).2.1 = .decision (store.allow other s.clock).answer := by
    simp only [step, hstore, stepStore]
  rw [entry, hanswer]
  cases hrefused : store.refused other with
  | some limit =>
    rw [(Store.allow_of_refused hrefused s.clock).1, if_neg fun h => by cases h.2]
    rfl
  | none =>
    rw [(Store.allow_of_served hrefused s.clock).1]
    simp [Entry.served?]

/-- What a command makes of the visitor of an identifier, and what its entry tells: the identifier
is served, or passed over so many times, or forgotten in a clearing. -/
inductive Fate (store : Store) (id : String) (e : Entry) (visitor : Option Visitor) : Prop
  | served {allowed : Bool} {v : Visitor} (hserved : e.served? id = some allowed)
      (hvisitor : visitor = some v) (hseen : v.lastSeen = e.reading)
  | passed (count : Nat) (hunserved : e.served? id = none)
      (hvisitor : visitor = (Reclaimer.passes store e.reading count).1.visitor? id)
  | cleared (hunserved : e.served? id = none) (hclear : e.command = .clear)
      (hvisitor : visitor = none)

/-- A request serves its identifier or passes over it, and every other. -/
theorem fate_allow (hstore : s.store = some store) (id other : String) :
    Fate store id (s.entry (.allow other)) ((store.allow other s.clock).state.visitor? id) := by
  have hentry := served?_entry_allow hstore id other
  cases hrefused : store.refused other with
  | some limit =>
    rw [if_neg fun h => by rw [hrefused] at h; cases h.2] at hentry
    rw [(Store.allow_of_refused hrefused s.clock).2]
    exact .passed 0 hentry rfl
  | none =>
    by_cases hid : other = id
    · subst hid
      rw [if_pos ⟨rfl, hrefused⟩] at hentry
      exact .served hentry (Store.visitor?_allow_self hrefused s.clock) rfl
    · rw [if_neg fun h => hid h.1] at hentry
      rw [Store.visitor?_allow_other store (Ne.symm hid)]
      exact .passed 0 hentry rfl

/-- **Every single command** lets an identifier meet one of the three. -/
theorem fate_step (hstore : s.store = some store) (hsingle : command.IsSingle) {t : Store}
    (ht : (s.step command).1.store = some t) (id : String) :
    Fate store id (s.entry command) (t.visitor? id) := by
  by_cases hallow : ∃ other, command = .allow other
  · obtain ⟨other, rfl⟩ := hallow
    have hstep : (s.step (.allow other)).1.store = some (store.allow other s.clock).state := by
      simp only [step, hstore, stepStore]
    obtain rfl := Option.some.inj (hstep.symm.trans ht)
    exact fate_allow hstore id other
  · have hunserved := s.served?_entry (fun other h => hallow ⟨other, h⟩) id
    have hdrop : command ≠ .dropStore := by
      rintro rfl
      cases ht
    obtain ⟨made, hmade, hmakes⟩ := makes_step hstore hdrop
    obtain rfl := Option.some.inj (hmade.symm.trans ht)
    cases hmakes with
    | allow other => exact absurd ⟨other, rfl⟩ hallow
    | allowMany other count => exact absurd rfl (hsingle other count)
    | passes _ count => exact .passed count hunserved rfl
    | clear => exact .cleared hunserved rfl rfl

/-- Whoever is tracked was last seen when the past tells that it was last served. -/
def Dated (past : List Entry) (s : Session) : Prop :=
  ∀ store, s.store = some store → ∀ id v, store.visitor? id = some v →
    lastServed? id past = some v.lastSeen

/-- Whoever was last served within the idle period, as the past tells, is tracked. -/
def Lasting (expiresIn : Duration) (past : List Entry) (s : Session) : Prop :=
  ∀ store, s.store = some store → ∀ id ∈ recent expiresIn s.clock past, id ∈ store.tracked

/-- The store after a command was there before it. -/
theorem exists_store_of_step {t : Store} (ht : (s.step command).1.store = some t) :
    ∃ store, s.store = some store := by
  cases hs : s.store with
  | none =>
    rw [step_store_none hs] at ht
    cases ht
  | some store => exact ⟨store, rfl⟩

/-- **Every single command keeps the tracked dated.** -/
theorem Dated.step (h : Dated past s) (hsingle : command.IsSingle) :
    Dated (past ++ [s.entry command]) (s.step command).1 := by
  intro t ht id v hv
  obtain ⟨store, hs⟩ := exists_store_of_step ht
  cases fate_step hs hsingle ht id with
  | served hserved hvisitor hseen =>
    obtain rfl := Option.some.inj (hvisitor.symm.trans hv)
    rw [lastServed?_concat_of_served hserved, hseen]
  | passed count hunserved hvisitor =>
    rw [lastServed?_concat_of_unserved hunserved]
    exact h store hs id v (Store.visitor?_of_passes (hvisitor.symm.trans hv))
  | cleared _ _ hvisitor => cases hvisitor.symm.trans hv

/-- **Every single command but a clearing keeps the recent tracked**, unless it moves the clock
back. -/
theorem Lasting.step {limits : Limits} (h : Lasting limits.expiresIn past s) (hover : s.Over limits)
    (hdated : Dated past s) (hsingle : command.IsSingle) (hclear : command ≠ .clear)
    (hforward : s.clock.sinceEpoch ≤ (command.clockAfter s.clock).sinceEpoch) :
    Lasting limits.expiresIn (past ++ [s.entry command]) (s.step command).1 := by
  intro t ht id hrecent
  obtain ⟨store, hs⟩ := exists_store_of_step ht
  rw [step_clock, mem_recent] at hrecent
  obtain ⟨seen, hlast, hseen⟩ := hrecent
  rw [Store.mem_tracked]
  cases fate_step hs hsingle ht id with
  | served _ hvisitor _ => exact ⟨_, hvisitor⟩
  | passed count hunserved hvisitor =>
    rw [lastServed?_concat_of_unserved hunserved] at hlast
    obtain ⟨v, hv⟩ := Store.mem_tracked.1
      (h store hs id (mem_recent.2 ⟨seen, hlast, by omega⟩))
    obtain rfl := Option.some.inj ((hdated store hs id v hv).symm.trans hlast)
    -- Who is recent after the command was not stale when it began.
    have hfresh : v.isStale s.clock store.limits.expiresIn = false := by
      rw [Visitor.isStale_eq_false_iff, (hover store hs).limits_eq]
      omega
    exact ⟨v, hvisitor.trans (Store.visitor?_passes_of_fresh hv hfresh count)⟩
  | cleared _ hcommand _ => exact absurd hcommand hclear

theorem Dated.run (h : Dated past s) {commands : List Command}
    (hsingle : ∀ command ∈ commands, command.IsSingle) :
    Dated (past ++ s.diary commands) (s.run commands).1 := by
  induction commands generalizing s past with
  | nil => rwa [diary, List.append_nil]
  | cons command rest ih =>
    have hstep := h.step (hsingle command (List.mem_cons_self ..))
    have hrest := ih hstep fun later hlater => hsingle later (List.mem_cons_of_mem _ hlater)
    rwa [List.append_assoc, List.singleton_append] at hrest

theorem Lasting.run {limits : Limits} (h : Lasting limits.expiresIn past s) (hover : s.Over limits)
    (hdated : Dated past s) {commands : List Command}
    (hsingle : ∀ command ∈ commands, command.IsSingle) (hclear : .clear ∉ commands)
    (hforward : NeverBack s.clock commands) :
    Lasting limits.expiresIn (past ++ s.diary commands) (s.run commands).1 := by
  induction commands generalizing s past with
  | nil => rwa [diary, List.append_nil]
  | cons command rest ih =>
    have hfirst := hsingle command (List.mem_cons_self ..)
    have hstep := h.step hover hdated hfirst (fun heq => hclear (heq ▸ List.mem_cons_self ..))
      hforward.1
    have hrest := ih hstep (hover.step command) (hdated.step hfirst)
      (fun later hlater => hsingle later (List.mem_cons_of_mem _ hlater))
      (fun hlater => hclear (List.mem_cons_of_mem _ hlater))
      (by rw [step_clock]; exact hforward.2)
    rwa [List.append_assoc, List.singleton_append] at hrest

/-! ## Who is left -/

/-- **A pass leaves the recent among the tracked.** -/
theorem tracked_reclaimed (h : Dated past s) (hstore : s.store = some store) (t : Instant) :
    (store.reclaimed t).tracked = store.tracked ∩ recent store.limits.expiresIn t past := by
  ext id
  rw [Finset.mem_inter, mem_recent, Store.mem_tracked, Store.mem_tracked]
  constructor
  · rintro ⟨v, hv⟩
    obtain ⟨hbefore, hfresh⟩ := Store.visitor?_reclaimed_eq_some_iff.1 hv
    exact ⟨⟨v, hbefore⟩, v.lastSeen, h store hstore id v hbefore,
      Visitor.isStale_eq_false_iff.1 hfresh⟩
  · rintro ⟨⟨v, hv⟩, seen, hlast, hseen⟩
    obtain rfl := Option.some.inj ((h store hstore id v hv).symm.trans hlast)
    have hfresh := Visitor.isStale_eq_false_iff.2 hseen
    exact ⟨v, Store.visitor?_reclaimed_eq_some_iff.2 ⟨hv, hfresh⟩⟩

/-- **Where the recent have lasted, a pass leaves just them.** -/
theorem tracked_reclaimed_of_lasting (hdated : Dated past s) (hstore : s.store = some store)
    (hlasting : Lasting store.limits.expiresIn past s) {t : Instant}
    (ht : s.clock.sinceEpoch ≤ t.sinceEpoch) :
    (store.reclaimed t).tracked = recent store.limits.expiresIn t past := by
  rw [tracked_reclaimed hdated hstore]
  refine Finset.inter_eq_right.2 fun id hrecent => hlasting store hstore id ?_
  obtain ⟨seen, hlast, hseen⟩ := mem_recent.1 hrecent
  exact mem_recent.2 ⟨seen, hlast, by omega⟩

/-- **Passes are exact, and absorb one another.**  A pass over any store removes whoever was last
seen more than the idle period ago, to the nanosecond, counts them, and leaves the others as they
are.  Of two passes in a row the first may be left out if the second reads the clock no earlier,
and its count goes to the second; where the second reads the clock no later, it does nothing.  In a
run from an empty store, with whatever reclaimers and clearings, a pass at `t` leaves as many as
are tracked and were last served, refusals apart, no more than the idle period before `t`.  Without
clearings and with a clock that never moves back, they are all who were served so lately, whether
passes were made before or not. -/
theorem passes_exact_and_absorbing :
    (∀ (s : Store) (t : Instant), s.ExactPass t (s.reclaim t).1 (s.reclaimed t)) ∧
      (∀ (s : Store) (first last : Instant), first.sinceEpoch ≤ last.sinceEpoch →
        ((s.reclaimed first).reclaimed last = s.reclaimed last ∧
          (s.reclaim first).1 + ((s.reclaimed first).reclaim last).1 = (s.reclaim last).1) ∧
        (s.reclaimed last).reclaimed first = s.reclaimed last ∧
          ((s.reclaimed last).reclaim first).1 = 0) ∧
      ∀ (limits : Limits) (now : Instant) (commands : List Command) (store : Store),
        let s := ((start limits now).run commands).1
        let diary := (start limits now).diary (commands.flatMap Command.singly)
        s.store = some store →
        (∀ t, (store.reclaimed t).size = (store.tracked ∩ recent limits.expiresIn t diary).card) ∧
          (.clear ∉ commands → NeverBack now commands →
            ∀ t, s.clock.sinceEpoch ≤ t.sinceEpoch →
              (store.reclaimed t).size = (recent limits.expiresIn t diary).card) := by
  refine ⟨Store.exactPass_reclaim, ?_, ?_⟩
  · intro s first last hle
    exact ⟨⟨Store.reclaimed_of_earlier hle, Store.removed_add_removed hle⟩,
      Store.reclaimed_of_later hle, Store.removed_of_later hle⟩
  · intro limits now commands store s diary hstore
    have hsingle : ∀ command ∈ commands.flatMap Command.singly, command.IsSingle := by
      intro command hcommand
      obtain ⟨_, -, hmem⟩ := List.mem_flatMap.1 hcommand
      exact Command.isSingle_of_mem_singly hmem
    have hover : (start limits now).Over limits := over_start limits now
    have hlimits : store.limits = limits := (hover.run commands store hstore).limits_eq
    have hnobody : Dated [] (start limits now) := by
      intro store hstore id v hv
      obtain rfl := Option.some.inj hstore
      cases hv
    have hdated : Dated diary s := by
      have hrun := hnobody.run hsingle
      rwa [run_singly] at hrun
    refine ⟨fun t => ?_, fun hclear hforward t ht => ?_⟩
    · rw [← Store.card_tracked, tracked_reclaimed hdated hstore, hlimits]
    · have hstart : Lasting limits.expiresIn [] (start limits now) := by
        intro store _ id hid
        simp [recent] at hid
      have hlasting : Lasting limits.expiresIn diary s := by
        have hrun := hstart.run hover hnobody hsingle ?_
          ((neverBack_singly now commands).2 hforward)
        · rwa [run_singly] at hrun
        · intro hmem
          obtain ⟨command, hcommand, hsame⟩ := List.mem_flatMap.1 hmem
          rw [Command.clear_mem_singly] at hsame
          exact hclear (hsame ▸ hcommand)
      rw [← hlimits] at hlasting
      rw [← Store.card_tracked, tracked_reclaimed_of_lasting hdated hstore hlasting ht, hlimits]

/-- A minute and a second after Alice came, a pass drops her and keeps Bob, who came a second later.
An earlier pass, half a minute before, would have changed nothing. -/
theorem passes_exact_and_absorbing_of_two_visitors :
    let commands : List Command :=
      [.allow "alice", .advanceClock 1000000000, .allowMany "bob" 2, .advanceClock 60000000000]
    let s := ((start .oneASecond .epoch).run commands).1
    let diary := (start .oneASecond .epoch).diary (commands.flatMap Command.singly)
    ∃ store earlier, s.store = some store ∧ .clear ∉ commands ∧ NeverBack .epoch commands ∧
      s.clock.advance? (-30000000000) = some earlier ∧
      earlier.sinceEpoch ≤ s.clock.sinceEpoch ∧
      (store.reclaimed earlier).reclaimed s.clock = store.reclaimed s.clock ∧
      store.size = 2 ∧ (store.reclaimed s.clock).size = 1 ∧
      (recent Limits.oneASecond.expiresIn s.clock diary).card = 1 := by
  intro commands s diary
  obtain ⟨store, hstore⟩ : ∃ store, s.store = some store := ⟨_, rfl⟩
  obtain ⟨earlier, hearlier⟩ : ∃ earlier, s.clock.advance? (-30000000000) = some earlier :=
    ⟨_, rfl⟩
  have hle : earlier.sinceEpoch ≤ s.clock.sinceEpoch := by
    obtain rfl := Option.some.inj hearlier
    decide
  have hclear : .clear ∉ commands := by simp [commands]
  have hforward : NeverBack .epoch commands := by decide
  have hsizes : s.store.map (fun store => (store.size, (store.reclaimed s.clock).size)) =
      some (2, 1) := by decide +kernel
  rw [hstore, Option.map_some, Option.some.injEq, Prod.mk.injEq] at hsizes
  obtain ⟨-, habsorb, hruns⟩ := passes_exact_and_absorbing
  have hleft := (hruns .oneASecond .epoch commands store hstore).2 hclear hforward s.clock
    (Int.le_refl _)
  exact ⟨store, earlier, hstore, hclear, hforward, hearlier, hle,
    (habsorb store earlier s.clock hle).1.1, hsizes.1, hsizes.2, hleft.symm.trans hsizes.2⟩

end Session
end Admission
