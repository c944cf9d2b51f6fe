import Admission.Proofs.Bucket.Conservation
import Admission.Proofs.Session.Runs
import Admission.Proofs.Store.Capacity

/-!
# What a visitor remembers

A store keeps no history, but what it keeps of an identifier is a function of the identifier's
own: of the requests that were answered, and of what came after them.  The diary of a run tells
everything that matters, and this file reads the visitor off it, whatever was refused in between
and however the clock moved.

* `Session.diary` — the commands of a run with the clock they read and what they were answered;
* `Remains` — the identifier was last served at an instant, and nothing ended its state since;
* `Began` — where in the diary the state of an identifier was created for the last time;
* `Recalled` — what a visitor has to do with the diary, kept by every command;
* `visitor_of_diary` — the visitor at the end of a run.
-/

namespace Admission

/-- A command that was run, the clock that it read, and its answer. -/
structure Entry where
  reading : Instant
  command : Command
  answer : Answer

namespace Entry

/-- The answer to a request of the identifier, if the store did not refuse it. -/
def served? (id : String) (e : Entry) : Option Bool :=
  match e.command, e.answer with
  | .allow other, .decision (.ok allowed) => if other = id then some allowed else none
  | _, _ => none

/-- The entry ends the state of whoever was last served at `seen`: it is a clearing, or a pass
that came later than the idle period. -/
def Ends (expiresIn : Duration) (seen : Instant) (e : Entry) : Prop :=
  e.command = .clear ∨
    e.command = .reclaim ∧ (expiresIn.nanoseconds : Int) < seen.nanosecondsTo e.reading

end Entry

/-- Readings and answers of the requests of an identifier that were served. -/
def services (id : String) (entries : List Entry) : List (Instant × Bool) :=
  entries.filterMap fun e => (e.served? id).map fun allowed => (e.reading, allowed)

/-- The identifier was last served at `seen`, and nothing has ended its state since. -/
def Remains (expiresIn : Duration) (id : String) (seen : Instant) (past : List Entry) : Prop :=
  ∃ before last after, past = before ++ last :: after ∧
    last.reading = seen ∧ (last.served? id).isSome = true ∧
    ∀ e ∈ after, e.served? id = none ∧ ¬ e.Ends expiresIn seen

/-- The state of an identifier was created by the entry `first`, for the last time: nothing
remained of it before, and whenever it was served since, something did. -/
structure Began (expiresIn : Duration) (id : String) (before : List Entry) (first : Entry)
    (since : List Entry) : Prop where
  served : (first.served? id).isSome = true
  created : ∀ seen, ¬ Remains expiresIn id seen before
  since : ∀ earlier again later, since = earlier ++ again :: later →
    (again.served? id).isSome = true →
    ∃ seen, Remains expiresIn id seen (before ++ first :: earlier)

/-! ## One more entry -/

/-- Where a list was split before its last element came. -/
theorem split_of_concat_eq {α : Type} {l before after : List α} {e x : α}
    (h : l ++ [e] = before ++ x :: after) :
    (before = l ∧ x = e ∧ after = []) ∨ ∃ rest, after = rest ++ [e] ∧ l = before ++ x :: rest := by
  rcases after.eq_nil_or_concat' with rfl | ⟨rest, final, rfl⟩
  · obtain ⟨hbefore, hlast⟩ := List.append_inj' h rfl
    exact .inl ⟨hbefore.symm, (List.singleton_inj.1 hlast).symm, rfl⟩
  · rw [← List.cons_append, ← List.append_assoc] at h
    obtain ⟨hbefore, hlast⟩ := List.append_inj' h rfl
    exact .inr ⟨rest, by rw [List.singleton_inj.1 hlast], hbefore⟩

section

variable {expiresIn : Duration} {id : String} {seen : Instant} {past : List Entry} {e : Entry}

theorem not_remains_nil : ¬ Remains expiresIn id seen [] := by
  rintro ⟨before, last, after, hpast, -⟩
  simp at hpast

/-- Being served sets when the identifier was last served. -/
theorem remains_concat_of_served (h : (e.served? id).isSome = true) :
    Remains expiresIn id seen (past ++ [e]) ↔ seen = e.reading := by
  constructor
  · rintro ⟨before, last, after, hpast, hseen, -, hafter⟩
    rcases split_of_concat_eq hpast with ⟨-, rfl, -⟩ | ⟨rest, rfl, -⟩
    · exact hseen.symm
    · have hnone := (hafter e (by simp)).1
      rw [hnone] at h
      cases h
  · rintro rfl
    refine ⟨past, e, [], rfl, rfl, h, ?_⟩
    intro later hlater
    cases hlater

/-- Any other entry leaves that alone, or ends it. -/
theorem remains_concat_of_unserved (h : e.served? id = none) :
    Remains expiresIn id seen (past ++ [e]) ↔
      Remains expiresIn id seen past ∧ ¬ e.Ends expiresIn seen := by
  constructor
  · rintro ⟨before, last, after, hpast, hseen, hserved, hafter⟩
    rcases split_of_concat_eq hpast with ⟨-, rfl, -⟩ | ⟨rest, rfl, rfl⟩
    · rw [h] at hserved
      cases hserved
    · refine ⟨⟨before, last, rest, rfl, hseen, hserved, ?_⟩, (hafter e (by simp)).2⟩
      intro later hlater
      exact hafter later (List.mem_append_left _ hlater)
  · rintro ⟨⟨before, last, after, rfl, hseen, hserved, hafter⟩, hends⟩
    refine ⟨before, last, after ++ [e], by simp, hseen, hserved, ?_⟩
    intro later hlater
    rcases List.mem_append.1 hlater with hlater | hlater
    · exact hafter later hlater
    · obtain rfl := List.mem_singleton.1 hlater
      exact ⟨h, hends⟩

/-- A state that was created goes on through entries that find it there. -/
theorem Began.concat {before : List Entry} {first : Entry} {since : List Entry}
    (h : Began expiresIn id before first since)
    (hthere : (e.served? id).isSome = true →
      ∃ seen, Remains expiresIn id seen (before ++ first :: since)) :
    Began expiresIn id before first (since ++ [e]) where
  served := h.served
  created := h.created
  since := by
    intro earlier again later hsplit hagain
    rcases split_of_concat_eq hsplit with ⟨rfl, rfl, rfl⟩ | ⟨rest, rfl, rfl⟩
    · exact hthere hagain
    · exact h.since earlier again rest rfl hagain

theorem services_concat_of_served {allowed : Bool} (h : e.served? id = some allowed) :
    services id (past ++ [e]) = services id past ++ [(e.reading, allowed)] := by
  simp [services, List.filterMap_append, h]

theorem services_concat_of_unserved (h : e.served? id = none) :
    services id (past ++ [e]) = services id past := by
  simp [services, List.filterMap_append, h]

end

/-! ## The visitor and the diary -/

/-- A bucket that was created full at an instant and then called at some readings, with what it
answered: its calls are those readings and its answers those answers. -/
structure Replays (a : Allowance) (first : Instant) (calls : List (Instant × Bool))
    (bucket : Bucket) : Prop where
  bucket_eq : bucket = (Bucket.full a first).replay (calls.map Prod.fst)
  answers_eq : (Bucket.full a first).answers (calls.map Prod.fst) = calls.map Prod.snd

/-- A bucket is called once more. -/
theorem Replays.concat {a : Allowance} {first : Instant} {calls : List (Instant × Bool)}
    {bucket : Bucket} (h : Replays a first calls bucket) (now : Instant) :
    Replays a first (calls ++ [(now, (bucket.allow now).1)]) (bucket.allow now).2 where
  bucket_eq := by
    rw [List.map_append, List.map_singleton, Bucket.replay_concat, ← h.bucket_eq]
  answers_eq := by
    rw [List.map_append, List.map_singleton, Bucket.answers_concat, ← h.bucket_eq, h.answers_eq,
      List.map_append, List.map_singleton]

/-- What a store keeps of an identifier, told by the past of the store. -/
structure Recalled (limits : Limits) (id : String) (past : List Entry)
    (visitor : Option Visitor) : Prop where
  remains : ∀ seen, Remains limits.expiresIn id seen past ↔
    visitor.map Visitor.lastSeen = some seen
  replays : ∀ v, visitor = some v → ∃ before first since, past = before ++ first :: since ∧
    Began limits.expiresIn id before first since ∧
    Replays limits.allowance first.reading (services id (first :: since)) v.bucket

namespace Recalled

variable {limits : Limits} {id : String} {past : List Entry} {visitor : Option Visitor} {e : Entry}

theorem nil (limits : Limits) (id : String) : Recalled limits id [] none where
  remains := by
    intro seen
    simp [not_remains_nil]
  replays := by
    intro v hv
    cases hv

/-- **The identifier is served.** -/
theorem served (h : Recalled limits id past visitor)
    (hserved : e.served? id = some (serve limits.allowance visitor e.reading).1) :
    Recalled limits id (past ++ [e]) (some (serve limits.allowance visitor e.reading).2) where
  remains := by
    intro seen
    rw [remains_concat_of_served (by rw [hserved, Option.isSome_some])]
    simp [serve, Visitor.allow, eq_comm]
  replays := by
    intro v hv
    obtain rfl := Option.some.inj hv
    cases visitor with
    | none =>
      -- Nothing remained, so the state is created here.
      have hnone : ∀ seen, ¬ Remains limits.expiresIn id seen past := by
        intro seen hseen
        have hlast := (h.remains seen).1 hseen
        cases hlast
      refine ⟨past, e, [], rfl, ⟨by rw [hserved, Option.isSome_some], hnone, ?_⟩, ?_⟩
      · intro earlier again later hsplit
        simp at hsplit
      · have hstart : Replays limits.allowance e.reading [] (.full limits.allowance e.reading) :=
          ⟨rfl, rfl⟩
        have hfirst : services id [e] =
            [(e.reading, ((Bucket.full limits.allowance e.reading).allow e.reading).1)] := by
          simp [services, hserved, serve, Visitor.allow, Visitor.arriving]
        rw [hfirst]
        exact hstart.concat e.reading
    | some w =>
      obtain ⟨before, first, since, rfl, hbegan, hreplays⟩ := h.replays w rfl
      have hthere : Remains limits.expiresIn id w.lastSeen (before ++ first :: since) :=
        (h.remains w.lastSeen).2 rfl
      refine ⟨before, first, since ++ [e], by simp, hbegan.concat fun _ => ⟨_, hthere⟩, ?_⟩
      rw [← List.cons_append, services_concat_of_served hserved]
      exact hreplays.concat e.reading

/-- **The state of the identifier is ended**, if it has any. -/
theorem ended (h : Recalled limits id past visitor) (hunserved : e.served? id = none)
    (hends : ∀ v, visitor = some v → e.Ends limits.expiresIn v.lastSeen) :
    Recalled limits id (past ++ [e]) none where
  remains := by
    intro seen
    rw [remains_concat_of_unserved hunserved, h.remains]
    constructor
    · rintro ⟨hseen, hnot⟩
      obtain ⟨v, hv, rfl⟩ := Option.map_eq_some_iff.1 hseen
      exact absurd (hends v hv) hnot
    · intro hseen
      cases hseen
  replays := by
    intro v hv
    cases hv

/-- **Nothing happens to the identifier.** -/
theorem kept (h : Recalled limits id past visitor) (hunserved : e.served? id = none)
    (hends : ∀ v, visitor = some v → ¬ e.Ends limits.expiresIn v.lastSeen) :
    Recalled limits id (past ++ [e]) visitor where
  remains := by
    intro seen
    rw [remains_concat_of_unserved hunserved, h.remains]
    constructor
    · exact And.left
    · intro hseen
      obtain ⟨v, hv, rfl⟩ := Option.map_eq_some_iff.1 hseen
      exact ⟨hseen, hends v hv⟩
  replays := by
    intro v hv
    obtain ⟨before, first, since, rfl, hbegan, hreplays⟩ := h.replays v hv
    have hsame : services id (first :: (since ++ [e])) = services id (first :: since) := by
      rw [← List.cons_append, services_concat_of_unserved hunserved]
    refine ⟨before, first, since ++ [e], by simp, hbegan.concat ?_, hsame ▸ hreplays⟩
    intro hserved
    rw [hunserved] at hserved
    cases hserved

end Recalled

/-! ## The operations of a store -/

section

variable {s : Store} {id : String} {past : List Entry}

/-- A request of the identifier or of another, served or refused. -/
theorem Recalled.allow (h : Recalled s.limits id past (s.visitor? id)) (other : String)
    (now : Instant) :
    Recalled s.limits id
      (past ++ [⟨now, .allow other, .decision (s.allow other now).answer⟩])
      ((s.allow other now).state.visitor? id) := by
  have hends : ∀ (answer : Answer) (seen : Instant),
      ¬ Entry.Ends s.limits.expiresIn seen ⟨now, .allow other, answer⟩ := by
    rintro answer seen (hclear | ⟨hreclaim, -⟩)
    · cases hclear
    · cases hreclaim
  cases hrefused : s.refused other with
  | some limit =>
    obtain ⟨hanswer, hstate⟩ := Store.allow_of_refused hrefused now
    rw [hanswer, hstate]
    exact h.kept rfl fun v _ => hends _ v.lastSeen
  | none =>
    rw [(Store.allow_of_served hrefused now).1]
    by_cases hid : id = other
    · subst hid
      rw [Store.visitor?_allow_self hrefused]
      exact h.served (by simp [Entry.served?, Store.served])
    · rw [Store.visitor?_allow_other s hid]
      have hother : other ≠ id := fun heq => hid heq.symm
      exact h.kept (by simp [Entry.served?, hother]) fun v _ => hends _ v.lastSeen

/-- A pass at a reading of the clock. -/
theorem Recalled.reclaim (h : Recalled s.limits id past (s.visitor? id)) (now : Instant)
    (answer : Answer) :
    Recalled s.limits id (past ++ [⟨now, .reclaim, answer⟩]) ((s.reclaimed now).visitor? id) := by
  have hends : ∀ v : Visitor, Entry.Ends s.limits.expiresIn v.lastSeen ⟨now, .reclaim, answer⟩ ↔
      v.isStale now s.limits.expiresIn = true := by
    intro v
    simp [Entry.Ends, Visitor.isStale]
  rw [Store.visitor?_reclaimed]
  cases hv : s.visitor? id with
  | none =>
    rw [hv] at h
    exact h.ended rfl fun v hnone => by cases hnone
  | some v =>
    rw [hv] at h
    cases hstale : v.isStale now s.limits.expiresIn with
    | true =>
      rw [Option.filter_some_neg (by simp [hstale])]
      refine h.ended rfl fun w hw => ?_
      obtain rfl := Option.some.inj hw
      exact (hends v).2 hstale
    | false =>
      rw [Option.filter_some_pos (by simp [hstale])]
      refine h.kept rfl fun w hw hend => ?_
      obtain rfl := Option.some.inj hw
      rw [(hends v).1 hend] at hstale
      cases hstale

end

/-! ## Runs -/

/-- The commands that ask a store, pass over it, clear it, or move its clock. -/
def Command.isDirect : Command → Bool
  | .setClock _ | .advanceClock _ | .allow _ | .reclaim | .clear => true
  | .contains _ | .isEmpty | .visitor _ => true
  | _ => false

namespace Session

/-- The commands of a run, with the clock that they read and what they were answered. -/
def diary (s : Session) : List Command → List Entry
  | [] => []
  | command :: rest =>
    ⟨s.clock, command, (s.step command).2.1⟩ :: (s.step command).1.diary rest

/-- A session whose store keeps of an identifier what the past tells. -/
def Recalls (limits : Limits) (id : String) (past : List Entry) (s : Session) : Prop :=
  ∃ store, s.store = some store ∧ store.limits = limits ∧
    Recalled limits id past (store.visitor? id)

variable {limits : Limits} {id : String} {past : List Entry} {s : Session}

/-- **Every direct command keeps the store and the past together.** -/
theorem Recalls.step (h : s.Recalls limits id past) {command : Command}
    (hdirect : command.isDirect = true) :
    (s.step command).1.Recalls limits id
      (past ++ [⟨s.clock, command, (s.step command).2.1⟩]) := by
  obtain ⟨clock, store, elapsed, reclaimer⟩ := s
  obtain ⟨store, rfl, rfl, hrecalled⟩ := h
  -- A command that is neither a request nor a pass nor a clearing.
  have hother : ∀ (command : Command) (answer : Answer),
      Entry.served? id ⟨clock, command, answer⟩ = none →
      command ≠ .clear → command ≠ .reclaim →
      Recalled store.limits id (past ++ [⟨clock, command, answer⟩]) (store.visitor? id) := by
    intro command answer hserved hclear hreclaim
    refine hrecalled.kept hserved fun v _ => ?_
    rintro (heq | ⟨heq, -⟩)
    · exact hclear heq
    · exact hreclaim heq
  cases command with
  | setClock now => exact ⟨store, rfl, rfl, hother _ _ rfl (by simp) (by simp)⟩
  | advanceClock nanoseconds =>
    simp only [Session.step]
    cases clock.advance? nanoseconds with
    | none => exact ⟨store, rfl, rfl, hother _ _ rfl (by simp) (by simp)⟩
    | some now => exact ⟨store, rfl, rfl, hother _ _ rfl (by simp) (by simp)⟩
  | contains _ | isEmpty | visitor _ =>
    exact ⟨store, rfl, rfl, hother _ _ rfl (by simp) (by simp)⟩
  | allow other =>
    exact ⟨(store.allow other clock).state, rfl, Store.allow_limits store other clock,
      hrecalled.allow other clock⟩
  | reclaim => exact ⟨store.reclaimed clock, rfl, rfl, hrecalled.reclaim clock _⟩
  | clear =>
    refine ⟨store.clear, rfl, rfl, ?_⟩
    rw [Store.visitor?_clear]
    exact hrecalled.ended rfl fun v _ => .inl rfl
  | allowMany _ _ | spawn _ | elapse _ _ | isFinished | interval | shutdown | dropReclaimer
  | dropStore => simp [Command.isDirect] at hdirect

theorem Recalls.run (h : s.Recalls limits id past) {commands : List Command}
    (hdirect : ∀ command ∈ commands, command.isDirect = true) :
    (s.run commands).1.Recalls limits id (past ++ s.diary commands) := by
  induction commands generalizing s past with
  | nil => rwa [diary, List.append_nil]
  | cons command rest ih =>
    have hstep := h.step (hdirect command (List.mem_cons_self ..))
    have hrest := ih hstep fun later hlater => hdirect later (List.mem_cons_of_mem _ hlater)
    rwa [List.append_assoc, List.singleton_append] at hrest

/-- **A visitor is a function of its own history.**  After any run of requests, passes, clearings
and moves of the clock over a store that started empty, an identifier is tracked exactly when it
was served at some instant and nothing has ended its state since.  Its visitor was then last seen
and last counted at that instant, and its bucket is a full one of the entry that created it,
called at the readings of the requests served since; the answers to those were its answers. -/
theorem visitor_of_diary (limits : Limits) (now : Instant) {commands : List Command}
    (hdirect : ∀ command ∈ commands, command.isDirect = true) (id : String) :
    let diary := (start limits now).diary commands
    ∃ store, ((start limits now).run commands).1.store = some store ∧
      (store.contains id = true ↔ ∃ seen, Remains limits.expiresIn id seen diary) ∧
      ∀ seen, Remains limits.expiresIn id seen diary →
        ∃ v, store.visitor? id = some v ∧ v.lastSeen = seen ∧ v.bucket.lastUpdate = seen ∧
          ∃ before first since, diary = before ++ first :: since ∧
            Began limits.expiresIn id before first since ∧
            let served := services id (first :: since)
            v.bucket = (Bucket.full limits.allowance first.reading).replay
                (served.map Prod.fst) ∧
              (Bucket.full limits.allowance first.reading).answers (served.map Prod.fst) =
                served.map Prod.snd := by
  intro diary
  have hstart : (start limits now).Recalls limits id [] :=
    ⟨.empty limits, rfl, rfl, Recalled.nil limits id⟩
  obtain ⟨store, hstore, -, hremains, hreplays⟩ := hstart.run hdirect
  have hover : ((start limits now).run commands).1.Over limits :=
    (over_start limits now).run commands
  rw [List.nil_append] at hremains hreplays
  refine ⟨store, hstore, ?_, ?_⟩
  · simp only [diary, hremains]
    rw [Store.contains]
    cases store.visitor? id <;> simp
  · intro seen hseen
    obtain ⟨v, hv, rfl⟩ := Option.map_eq_some_iff.1 ((hremains seen).1 hseen)
    have hsound := (hover store hstore).sound id v hv
    obtain ⟨before, first, since, hsplit, hbegan, hbucket, hanswers⟩ := hreplays v hv
    exact ⟨v, hv, rfl, hsound.lastUpdate, before, first, since, hsplit, hbegan, hbucket, hanswers⟩

/-- Alice is denied after the clock has moved back and forgotten by a pass, Bob is refused and then
created in her place. -/
theorem visitor_of_diary_of_two_visitors :
    let commands : List Command :=
      [.allow "alice", .allow "bob", .advanceClock (-30000000000), .allow "alice",
        .advanceClock 61000000000, .reclaim, .allow "bob", .advanceClock 500000000, .allow "bob"]
    let diary := (start .oneVisitor .epoch).diary commands
    (∀ command ∈ commands, command.isDirect = true) ∧
      (∀ seen, ¬ Remains Limits.oneVisitor.expiresIn "alice" seen diary) ∧
      ∃ store seen v, ((start .oneVisitor .epoch).run commands).1.store = some store ∧
        Remains Limits.oneVisitor.expiresIn "bob" seen diary ∧
        store.visitor? "bob" = some v ∧ v.lastSeen = seen ∧ v.bucket.lastUpdate = seen := by
  intro commands diary
  have hdirect : ∀ command ∈ commands, command.isDirect = true := by decide
  have htracked : ((start .oneVisitor .epoch).run commands).1.store.map
      (fun store => (store.contains "alice", store.contains "bob")) = some (false, true) := by
    decide +kernel
  obtain ⟨store, hstore, halice, -⟩ := visitor_of_diary .oneVisitor .epoch hdirect "alice"
  obtain ⟨store', hstore', hbob, hseen⟩ := visitor_of_diary .oneVisitor .epoch hdirect "bob"
  obtain rfl : store = store' := Option.some.inj (hstore.symm.trans hstore')
  rw [hstore, Option.map_some, Option.some.injEq, Prod.mk.injEq] at htracked
  refine ⟨hdirect, ?_, ?_⟩
  · intro seen hremains
    have hcontains := halice.2 ⟨seen, hremains⟩
    rw [htracked.1] at hcontains
    cases hcontains
  · obtain ⟨seen, hremains⟩ := hbob.1 htracked.2
    obtain ⟨v, hv, hlast, hupdate, -⟩ := hseen seen hremains
    exact ⟨store, seen, v, hstore, hremains, hv, hlast, hupdate⟩

end Session
end Admission
