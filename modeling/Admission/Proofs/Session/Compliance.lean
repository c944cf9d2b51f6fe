import Admission.Proofs.Session.Runs

/-!
# Clients that keep to the rate

A client that waits long enough between its requests for a whole token to come in is never denied.
Its bucket gains that token whatever it held before, and the roundings cannot take it away again
where the time brings a little more than one.  Whether the bucket is still there does not matter:
a visitor that was forgotten comes back with a full bucket, and one that is remembered was last
counted at the client's last request.

* `Allowance.Ripens` — the time between two requests brings a whole token;
* `Holds.allow_of_ripens` — a bucket that was left alone for so long admits a call;
* `requestsOf` — the readings of the clock at which an identifier makes its requests;
* `Session.Keeps` — the identifier was last seen at its last request, if it is remembered at all;
* `Keeps.step`, `Keeps.run` — every command keeps that, and grants the requests it makes;
* `Session.spaced_requests_granted` — what it means for a run.
-/

namespace Admission

open Binary64

/-! ## The time between two requests -/

/-- The time between two instants brings a whole token, and a little to spare for rounding.  It
is counted to the nanosecond. -/
def Allowance.Ripens (a : Allowance) (before now : Instant) : Prop :=
  1 + 1 / 2 ^ 50 ≤ a.exactRate * before.forwardSeconds now ∧
    before.nanosecondsTo now < 9223372036854775808

instance (a : Allowance) (before now : Instant) : Decidable (a.Ripens before now) :=
  inferInstanceAs (Decidable (_ ∧ _))

/-- **A bucket that was left alone for long enough admits a call**, however little it held. -/
theorem Bucket.Holds.allow_of_ripens {b : Bucket} {t : ℚ} (h : b.Holds t) {now : Instant}
    (hripens : b.allowance.Ripens b.lastUpdate now) : (b.allow now).1 = true := by
  obtain ⟨htoken, hnear⟩ := hripens
  have hcounted := (Instant.countedSeconds_mem (Int.le_of_lt_add_one hnear)).1
  have hgain : 1 ≤ b.lastUpdate.countedSeconds now * b.allowance.exactRate := by
    have hbrought := mul_le_mul_of_nonneg_right hcounted b.allowance.exactRate_nonneg
    linarith
  have hround := onGrid_one.le_nearest zero_le_one hgain
  have hsum : 1 ≤ t + nearest (b.lastUpdate.countedSeconds now * b.allowance.exactRate) := by
    linarith [h.nonneg]
  refine (h.allow now).1.2 (le_min ?_ b.allowance.one_le_burst)
  exact onGrid_one.le_nearest zero_le_one hsum

namespace Store

/-- The identifier was last seen at its last request, if the store still tracks it. -/
def SeenAt (id : String) (last : Option Instant) (s : Store) : Prop :=
  ∀ v, s.visitor? id = some v → last = some v.lastSeen

variable {s : Store} {id other : String} {last : Option Instant} {now : Instant}

/-- **A request that comes late enough is granted**, by the visitor or by a new one. -/
theorem Sound.served_of_ripens (h : s.Sound) (hseen : s.SeenAt id last)
    (hripens : ∀ before ∈ last, s.limits.allowance.Ripens before now) :
    (s.served id now).1 = true := by
  rw [Store.served]
  cases hv : s.visitor? id with
  | none => exact Bucket.allow_full s.limits.allowance now now
  | some v =>
    obtain ⟨hallowance, hupdate, t, hholds⟩ := h id v hv
    refine hholds.allow_of_ripens ?_
    rw [hallowance, hupdate]
    exact hripens v.lastSeen (hseen v hv)

theorem seenAt_allow_self (h : s.refused id = none) (now : Instant) :
    (s.allow id now).state.SeenAt id (some now) := by
  intro v hv
  rw [visitor?_allow_self h, Option.some.injEq] at hv
  exact hv ▸ rfl

end Store

/-! ## The requests of a run -/

/-- The readings of the clock at which an identifier makes its requests, in order. -/
def requestsOf (id : String) : Instant → List Command → List Instant
  | _, [] => []
  | now, command :: rest =>
    List.replicate (command.requests id) now ++ requestsOf id (command.clockAfter now) rest

/-- Every request of the identifier that a command makes is granted. -/
def Command.Grants (id : String) (command : Command) (answer : Answer) : Prop :=
  (command = .allow id → answer = .decision (.ok true)) ∧
    ∀ count, command = .allowMany id count → answer = .admitted count

/-- A request that comes after the others: how it follows the last of them, and what follows
it. -/
theorem isChain_toList_append_cons {α : Type} {R : α → α → Prop} {last : Option α} {a : α}
    {rest : List α} :
    (last.toList ++ a :: rest).IsChain R ↔
      (∀ before ∈ last, R before a) ∧ (a :: rest).IsChain R := by
  cases last with
  | none => simp
  | some before => simp [List.isChain_cons_cons]

namespace Session

/-- A session over a store without a cap, in which the identifier was last seen at its last
request, if it is remembered at all. -/
structure Keeps (limits : Limits) (id : String) (last : Option Instant) (s : Session) : Prop where
  uncapped : limits.maxVisitors = none
  store : ∃ store, s.store = some store ∧ Store.Reachable limits store ∧ store.SeenAt id last

namespace Keeps

variable {limits : Limits} {id : String} {last : Option Instant} {s : Session} {store : Store}
  {command : Command} {later : List Instant}

/-- One request, late enough after the one before. -/
theorem allow (huncapped : limits.maxVisitors = none) (hstore : Store.Reachable limits store)
    (hseen : store.SeenAt id last) {now : Instant}
    (hripens : ∀ before ∈ last, limits.allowance.Ripens before now) :
    (store.allow id now).answer = .ok true ∧ (store.allow id now).state.SeenAt id (some now) := by
  have hlimits := hstore.limits_eq
  have hserved : store.refused id = none :=
    Store.Uncapped.refused_eq_none (by rw [Store.Uncapped, hlimits, huncapped]) id
  have hgranted : (store.served id now).1 = true :=
    hstore.sound.served_of_ripens hseen (hlimits.symm ▸ hripens)
  rw [(Store.allow_of_served hserved now).1, hgranted]
  exact ⟨rfl, Store.seenAt_allow_self hserved now⟩

/-- Requests at one reading of the clock, each late enough after the one before. -/
theorem allowMany (huncapped : limits.maxVisitors = none) (hstore : Store.Reachable limits store)
    (hseen : store.SeenAt id last) {now : Instant} {count : Nat}
    (hspaced : (last.toList ++ (List.replicate count now ++ later)).IsChain
      limits.allowance.Ripens) :
    (store.allowMany id now count).1 = count ∧
      ∃ next, (store.allowMany id now count).2.SeenAt id next ∧
        (next.toList ++ later).IsChain limits.allowance.Ripens := by
  induction count generalizing store last with
  | zero => exact ⟨rfl, last, hseen, hspaced⟩
  | succ count ih =>
    rw [List.replicate_succ, List.cons_append, isChain_toList_append_cons] at hspaced
    obtain ⟨hripens, hrest⟩ := hspaced
    obtain ⟨hanswer, hnext⟩ := allow huncapped hstore hseen hripens
    obtain ⟨hcount, hkept⟩ := ih (hstore.allow id now) hnext hrest
    refine ⟨?_, hkept⟩
    simp only [Store.allowMany, hanswer, hcount]

/-- **Every command keeps to it**, and grants the requests that it makes. -/
theorem step (h : s.Keeps limits id last) (hdrop : command ≠ .dropStore)
    (hspaced : (last.toList ++ (List.replicate (command.requests id) s.clock ++ later)).IsChain
      limits.allowance.Ripens) :
    command.Grants id (s.step command).2.1 ∧
      ∃ next, (s.step command).1.Keeps limits id next ∧
        (next.toList ++ later).IsChain limits.allowance.Ripens := by
  obtain ⟨huncapped, store, hs, hstore, hseen⟩ := h
  obtain ⟨t, ht, hmakes⟩ := makes_step hs hdrop
  obtain ⟨clock, _, elapsed, reclaimer⟩ := s
  obtain rfl := hs
  by_cases hallow : command = .allow id
  · subst hallow
    have hrequests : Command.requests id (.allow id) = 1 := if_pos rfl
    rw [hrequests, List.replicate_one, List.singleton_append,
      isChain_toList_append_cons] at hspaced
    obtain ⟨hanswer, hnext⟩ := allow huncapped hstore hseen hspaced.1
    refine ⟨⟨fun _ => congrArg Answer.decision hanswer, by simp⟩, some clock, ?_, hspaced.2⟩
    exact ⟨huncapped, _, rfl, hstore.allow id clock, hnext⟩
  by_cases hmany : ∃ count, command = .allowMany id count
  · obtain ⟨count, rfl⟩ := hmany
    have hrequests : Command.requests id (.allowMany id count) = count := if_pos rfl
    rw [hrequests] at hspaced
    obtain ⟨hcount, next, hnext, hrest⟩ := allowMany huncapped hstore hseen hspaced
    refine ⟨⟨by simp, ?_⟩, next, ?_, hrest⟩
    · rintro n ⟨-, rfl⟩
      exact congrArg Answer.admitted hcount
    · exact ⟨huncapped, _, rfl, hstore.allowMany id clock count, hnext⟩
  · -- Nothing is asked about the identifier.
    have hrequests : command.requests id = 0 :=
      Command.requests_eq_zero hallow fun count heq => hmany ⟨count, heq⟩
    rw [hrequests] at hspaced
    refine ⟨⟨fun heq => absurd heq hallow, fun n heq => absurd ⟨n, heq⟩ hmany⟩, last, ?_, hspaced⟩
    exact ⟨huncapped, t, ht, hmakes.reachable hstore,
      fun v hv => hseen v (hmakes.visitor?_of_requests hrequests hv)⟩

/-- **So does every run.** -/
theorem run (h : s.Keeps limits id last) {commands : List Command}
    (hdrop : .dropStore ∉ commands)
    (hspaced : (last.toList ++ requestsOf id s.clock commands).IsChain limits.allowance.Ripens) :
    ∀ entry ∈ s.transcript commands, entry.1.Grants id entry.2 := by
  induction commands generalizing s last with
  | nil => simp [transcript]
  | cons command rest ih =>
    rw [List.mem_cons, not_or] at hdrop
    obtain ⟨hgrants, next, hnext, hrest⟩ := h.step (Ne.symm hdrop.1) hspaced
    intro entry hentry
    rw [transcript_cons, List.mem_cons] at hentry
    rcases hentry with rfl | hlater
    · exact hgrants
    · refine ih hnext hdrop.2 ?_ entry hlater
      rw [step_clock]
      exact hrest

end Keeps

/-- **A client that keeps to the rate is never denied.**  On a store without a cap, whatever was
done to it before and by whom: if the requests of an identifier, from the last one that is
remembered, come late enough one after the other for a whole token to come in, every one of them is
granted.  Requests of others, passes, clearings and a reclaimer may come in between, as many as
there are, and the clock may even be set back between two requests. -/
theorem spaced_requests_granted {limits : Limits} (huncapped : limits.maxVisitors = none)
    {s : Session} {store : Store} (hs : s.store = some store)
    (hstore : Store.Reachable limits store) (id : String) {commands : List Command}
    (hdrop : .dropStore ∉ commands)
    (hspaced : (((store.visitor? id).map Visitor.lastSeen).toList ++
      requestsOf id s.clock commands).IsChain limits.allowance.Ripens) :
    ∀ entry ∈ s.transcript commands,
      (entry.1 = .allow id → entry.2 = .decision (.ok true)) ∧
        ∀ count, entry.1 = .allowMany id count → entry.2 = .admitted count := by
  have hkeeps : s.Keeps limits id ((store.visitor? id).map Visitor.lastSeen) := by
    refine ⟨huncapped, store, hs, hstore, fun v hv => ?_⟩
    rw [hv, Option.map_some]
  exact hkeeps.run hdrop hspaced

/-- A request a second and a little more, with others, a pass and a clearing in between. -/
theorem spaced_requests_granted_of_four_seconds :
    let commands : List Command :=
      [.allow "alice", .allow "bob", .advanceClock 1000000001, .allow "bob", .allow "alice",
        .advanceClock 61000000000, .reclaim, .advanceClock 1, .allow "alice", .clear,
        .advanceClock 1500000000, .allowMany "alice" 1]
    Limits.oneASecond.maxVisitors = none ∧
      Store.Reachable .oneASecond (.empty .oneASecond) ∧ .dropStore ∉ commands ∧
      (requestsOf "alice" .epoch commands).IsChain Limits.oneASecond.allowance.Ripens ∧
      ∀ entry ∈ (start .oneASecond .epoch).transcript commands,
        entry.1 = .allow "alice" → entry.2 = .decision (.ok true) := by
  intro commands
  have hdrop : .dropStore ∉ commands := by simp [commands]
  have hspaced : (requestsOf "alice" .epoch commands).IsChain
      Limits.oneASecond.allowance.Ripens := by decide +kernel
  have hgranted := spaced_requests_granted (s := start .oneASecond .epoch) rfl rfl .empty "alice"
    hdrop hspaced
  exact ⟨rfl, .empty, hdrop, hspaced, fun entry hentry => (hgranted entry hentry).1⟩

end Session

end Admission
