import Admission.Proofs.Bucket.Quota
import Admission.Proofs.Limits.Construction
import Admission.Proofs.Store.Capacity

/-!
# Stores that never refill

A store whose rate is zero grants every identifier a fixed number of requests.  What counts is
the life of the visitor: it is created with the whole quota, spends it request by request however
the clock moves, and is forgotten, spent or not, by a pass or a clearing.  Nothing that is done for
other identifiers, and no pass that leaves the visitor alone, gives anything back.

* `Allowance.of?_zero` — a zero of either sign is a rate;
* `Store.Spent` — what an identifier has spent of its quota;
* `Rationed` — answers that grant the requests whose numbers are within the quota;
* `Session.tracksAlong` — the identifier is created and not forgotten along a run;
* `Spends.step`, `Spends.run` — every command spends what it asks for;
* `Session.zero_rate_is_quota` — the quota of a bucket, and of an identifier in a store.
-/

namespace Admission

open Binary64

/-! ## Limits with a rate of zero -/

/-- A zero of either sign is a rate. -/
theorem Allowance.of?_zero (negative : Bool) {burst : UInt32} (hburst : 1 ≤ burst) :
    ∃ a, of? (.zero negative) burst = .ok a ∧ a.rate = .zero negative ∧ a.burst = burst := by
  have hrate : (zero negative).isFinite = true ∧ zero false ≤ zero negative := by
    cases negative <;> decide +kernel
  refine ⟨⟨.zero negative, burst, hrate.1, hrate.2, hburst⟩, ?_, rfl, rfl⟩
  rw [of?, dif_pos hburst, dif_pos hrate]

/-- Limits to try a quota on: two requests in all, at a rate of negative zero. -/
def Limits.twoInAll : Limits :=
  { Limits.twoKept with
    allowance := ⟨.zero true, 2, by decide +kernel, by decide +kernel,
      Limits.twoKept.allowance.burst_pos⟩ }

/-! ## What an identifier has spent -/

namespace Store

/-- An identifier has spent so many requests of its quota: its visitor has, or it has none and
nothing was spent. -/
structure Spent (id : String) (asked : ℕ) (s : Store) : Prop where
  visitor : ∀ v, s.visitor? id = some v → v.bucket.Spent asked
  nobody : s.visitor? id = none → asked = 0

variable {limits : Limits} {s : Store} {id : String} {asked : ℕ} {now : Instant}

theorem spent_of_untracked (h : s.contains id = false) : s.Spent id 0 where
  visitor := by
    intro v hv
    rw [contains, hv] at h
    cases h
  nobody _ := rfl

/-- **To be served is to spend one request more**, granted by its number. -/
theorem Spent.served (h : s.Spent id asked) (hstore : Reachable limits s)
    (hrate : limits.allowance.rate.isZero = true) (now : Instant) :
    (s.served id now).1 = decide (asked + 1 ≤ limits.allowance.burst.toNat) ∧
      (s.served id now).2.bucket.Spent (asked + 1) := by
  have hlimits := hstore.limits_eq
  rw [Store.served, hlimits]
  cases hv : s.visitor? id with
  | none =>
    obtain rfl := h.nobody hv
    exact (Bucket.spent_full hrate now).allow now
  | some v =>
    have hallowance := (hstore.sound id v hv).allowance
    rw [hlimits] at hallowance
    rw [← hallowance]
    exact (h.visitor v hv).allow now

/-- One request. -/
theorem Spent.allow (h : s.Spent id asked) (hstore : Reachable limits s)
    (hrate : limits.allowance.rate.isZero = true) (hserved : s.refused id = none)
    (now : Instant) :
    (s.allow id now).answer = .ok (decide (asked + 1 ≤ limits.allowance.burst.toNat)) ∧
      (s.allow id now).state.Spent id (asked + 1) := by
  obtain ⟨hanswer, hspent⟩ := h.served hstore hrate now
  have hvisitor := visitor?_allow_self hserved now
  refine ⟨by rw [(allow_of_served hserved now).1, hanswer], ?_, ?_⟩
  · intro v hv
    rw [hvisitor, Option.some.injEq] at hv
    exact hv ▸ hspent
  · intro hnone
    rw [hvisitor] at hnone
    cases hnone

/-- Many requests: as many are granted as are left. -/
theorem Spent.allowMany (h : s.Spent id asked) (hstore : Reachable limits s)
    (hrate : limits.allowance.rate.isZero = true) (hserved : s.refused id = none)
    (now : Instant) (count : ℕ) :
    (s.allowMany id now count).1 = min count (limits.allowance.burst.toNat - asked) ∧
      (s.allowMany id now count).2.Spent id (asked + count) := by
  induction count generalizing s asked with
  | zero => exact ⟨(Nat.zero_min _).symm, h⟩
  | succ count ih =>
    obtain ⟨hanswer, hspent⟩ := h.allow hstore hrate hserved now
    obtain ⟨hcount, hrest⟩ := ih hspent (hstore.allow id now) (refused_allow_self hserved now)
    rw [Nat.add_right_comm, Nat.add_assoc] at hrest
    refine ⟨?_, hrest⟩
    simp only [Store.allowMany, hanswer, hcount]
    by_cases hleft : asked + 1 ≤ limits.allowance.burst.toNat
    · rw [decide_eq_true hleft]
      dsimp only
      omega
    · rw [decide_eq_false hleft]
      dsimp only
      omega

/-- Requests that leave the identifier tracked were not refused. -/
theorem refused_eq_none_of_contains {t : Store} (h : t.contains id = true)
    (hrefused : ∀ limit, s.refused id = some limit → t = s) : s.refused id = none := by
  cases hlimit : s.refused id with
  | none => rfl
  | some limit =>
    rw [hrefused limit hlimit, (refused_eq_some_iff.1 hlimit).1] at h
    cases h

end Store

/-! ## The requests of a run -/

/-- How many decisions on an identifier some commands ask for. -/
def requested (id : String) (commands : List Command) : ℕ :=
  (commands.map (Command.requests id)).sum

/-- Of the requests of an identifier that a command makes after so many others, those are granted
whose numbers are within the quota. -/
def Command.Rationed (id : String) (quota asked : ℕ) (command : Command) (answer : Answer) : Prop :=
  (command = .allow id → answer = .decision (.ok (decide (asked + 1 ≤ quota)))) ∧
    ∀ count, command = .allowMany id count → answer = .admitted (min count (quota - asked))

/-- So it is with every command of a transcript. -/
def Rationed (id : String) (quota : ℕ) : ℕ → List (Command × Answer) → Prop
  | _, [] => True
  | asked, (command, answer) :: rest =>
    command.Rationed id quota asked answer ∧
      Rationed id quota (asked + command.requests id) rest

namespace Session

/-- The identifier is tracked after the first of the commands, and after every later one. -/
def tracksAlong (s : Session) (id : String) : List Command → Bool
  | [] => true
  | command :: rest =>
    (s.step command).1.store.any (fun store => store.contains id) &&
      (s.step command).1.tracksAlong id rest

/-- A session over a store with a rate of zero, in which an identifier has spent so many requests
of its quota. -/
structure Spends (limits : Limits) (id : String) (asked : ℕ) (s : Session) : Prop where
  rate : limits.allowance.rate.isZero = true
  store : ∃ store, s.store = some store ∧ Store.Reachable limits store ∧ store.Spent id asked

namespace Spends

variable {limits : Limits} {id : String} {asked : ℕ} {s : Session} {command : Command}

/-- **Every command spends the requests that it makes**, where it leaves the identifier tracked. -/
theorem step (h : s.Spends limits id asked)
    (htracked : (s.step command).1.store.any (fun store => store.contains id) = true) :
    command.Rationed id limits.allowance.burst.toNat asked (s.step command).2.1 ∧
      (s.step command).1.Spends limits id (asked + command.requests id) := by
  obtain ⟨hrate, store, hs, hstore, hspent⟩ := h
  have hdrop : command ≠ .dropStore := by
    rintro rfl
    cases htracked
  obtain ⟨t, ht, hmakes⟩ := makes_step hs hdrop
  rw [ht, Option.any_some] at htracked
  obtain ⟨clock, _, elapsed, reclaimer⟩ := s
  obtain rfl := hs
  by_cases hallow : command = .allow id
  · subst hallow
    obtain rfl : (store.allow id clock).state = t := Option.some.inj ht
    have hserved : store.refused id = none :=
      Store.refused_eq_none_of_contains htracked fun limit hlimit =>
        (Store.allow_of_refused hlimit clock).2
    obtain ⟨hanswer, hnext⟩ := hspent.allow hstore hrate hserved clock
    have hrequests : Command.requests id (.allow id) = 1 := if_pos rfl
    rw [hrequests]
    refine ⟨⟨fun _ => congrArg Answer.decision hanswer, by simp⟩, hrate, _, rfl, ?_, hnext⟩
    exact hstore.allow id clock
  by_cases hmany : ∃ count, command = .allowMany id count
  · obtain ⟨count, rfl⟩ := hmany
    obtain rfl : (store.allowMany id clock count).2 = t := Option.some.inj ht
    have hserved : store.refused id = none :=
      Store.refused_eq_none_of_contains htracked fun limit hlimit =>
        congrArg Prod.snd (Store.allowMany_of_refused hlimit clock count)
    obtain ⟨hcount, hnext⟩ := hspent.allowMany hstore hrate hserved clock count
    have hrequests : Command.requests id (.allowMany id count) = count := if_pos rfl
    rw [hrequests]
    refine ⟨⟨by simp, ?_⟩, hrate, _, rfl, hstore.allowMany id clock count, hnext⟩
    rintro n heq
    cases heq
    exact congrArg Answer.admitted hcount
  · -- The visitor, which is still there, was left alone.
    have hrequests : command.requests id = 0 :=
      Command.requests_eq_zero hallow fun count heq => hmany ⟨count, heq⟩
    rw [hrequests]
    refine ⟨⟨fun heq => absurd heq hallow, fun n heq => absurd ⟨n, heq⟩ hmany⟩, hrate, t, ht,
      hmakes.reachable hstore, ?_, ?_⟩
    · intro v hv
      exact hspent.visitor v (hmakes.visitor?_of_requests hrequests hv)
    · intro hnone
      rw [Store.contains, hnone] at htracked
      cases htracked

/-- **So does every run**, as long as the identifier is tracked. -/
theorem run (h : s.Spends limits id asked) {commands : List Command}
    (htracked : s.tracksAlong id commands = true) :
    Rationed id limits.allowance.burst.toNat asked (s.transcript commands) ∧
      (s.run commands).1.Spends limits id (asked + requested id commands) := by
  induction commands generalizing s asked with
  | nil => exact ⟨trivial, h⟩
  | cons command rest ih =>
    rw [tracksAlong, Bool.and_eq_true] at htracked
    obtain ⟨hanswer, hnext⟩ := h.step htracked.1
    obtain ⟨hanswers, hlast⟩ := ih hnext htracked.2
    rw [Nat.add_assoc] at hlast
    exact ⟨⟨hanswer, hanswers⟩, hlast⟩

/-- What was spent is told by the visitor. -/
theorem spent_of_visitor (h : s.Spends limits id asked) {v : Visitor}
    (hv : s.visitor? id = some (some v)) :
    v.bucket.Spent asked ∧ v.bucket.allowance = limits.allowance := by
  obtain ⟨-, store, hs, hstore, hspent⟩ := h
  rw [Session.visitor?, hs, Option.map_some, Option.some.injEq] at hv
  have hallowance := (hstore.sound id v hv).allowance
  rw [hstore.limits_eq] at hallowance
  exact ⟨hspent.visitor v hv, hallowance⟩

end Spends

/-- An identifier that is tracked after some commands has a visitor then. -/
theorem exists_visitor_of_tracksAlong {s : Session} {id : String} {commands : List Command}
    (hsome : commands ≠ []) (h : s.tracksAlong id commands = true) :
    ∃ v, (s.run commands).1.visitor? id = some (some v) := by
  induction commands generalizing s with
  | nil => exact absurd rfl hsome
  | cons command rest ih =>
    rw [tracksAlong, Bool.and_eq_true] at h
    cases rest with
    | nil =>
      obtain ⟨store, hstore, htracked⟩ := (Option.any_eq_true _ _).1 h.1
      obtain ⟨v, hv⟩ := Option.isSome_iff_exists.1 htracked
      refine ⟨v, ?_⟩
      show (s.step command).1.visitor? id = some (some v)
      rw [Session.visitor?, hstore, Option.map_some, hv]
    | cons next later => exact ih (List.cons_ne_nil next later) h.2

/-- **A rate of zero is a fixed quota.**  It is accepted with either sign and any burst that is not
zero.  Of the calls of a full bucket, at whatever instants and in whatever order, those are admitted
whose numbers are at most the burst; the bucket then holds the burst less those admitted, and has a
token at once before the quota is used, and never after.  The same holds of an identifier in a
store, whatever was done to the store before, from the command that creates its visitor and for as
long as it is tracked. -/
theorem zero_rate_is_quota (negative : Bool) (burst : UInt32) (hburst : 1 ≤ burst) :
    ∃ a, Allowance.of? (.zero negative) burst = .ok a ∧
      (∀ (start : Instant) (calls : List Instant),
        let full := Bucket.full a start
        full.answers calls =
            (List.range' 1 calls.length).map (fun call => decide (call ≤ burst.toNat)) ∧
          (full.replay calls).tokens.HasMagnitude (burst.toNat - full.admitted calls) ∧
          ∀ now, (full.replay calls).nextAvailable now =
            if calls.length < burst.toNat then some .zero else none) ∧
      ∀ (config : LimiterConfig) (limits : Limits), config.rate = .zero negative →
        config.burst = burst → Limits.ofConfig config = .ok limits →
        ∀ (s : Session) (store : Store), s.store = some store → Store.Reachable limits store →
        ∀ (id : String) (commands : List Command), store.contains id = false → commands ≠ [] →
          s.tracksAlong id commands = true →
          Rationed id burst.toNat 0 (s.transcript commands) ∧
            ∃ v, (s.run commands).1.visitor? id = some (some v) ∧
              v.bucket.tokens.HasMagnitude
                (burst.toNat - min (requested id commands) burst.toNat) ∧
              ∀ now, v.bucket.nextAvailable now =
                if requested id commands < burst.toNat then some .zero else none := by
  obtain ⟨a, ha, hrate, rfl⟩ := Allowance.of?_zero negative hburst
  have hzero : a.rate.isZero = true := by rw [hrate]; rfl
  refine ⟨a, ha, ?_, ?_⟩
  · intro start calls full
    have hspent := (Bucket.spent_full hzero start).replay calls
    have hallowance : (full.replay calls).allowance = a := Bucket.replay_allowance full calls
    rw [Nat.zero_add] at hspent
    refine ⟨(Bucket.spent_full hzero start).answers calls, ?_, fun now => ?_⟩
    · rw [Bucket.admitted_of_isZero hzero start calls]
      exact hallowance ▸ hspent.tokens
    · rw [hspent.nextAvailable now, hallowance]
  · intro config limits hconfig hsame hlimits s store hs hstore id commands hnew hsome htracked
    have hlimited : limits.allowance = a := by
      have hof := Limits.allowance_of_ofConfig hlimits (hsame.symm ▸ hburst)
      rw [hconfig, hsame, ha] at hof
      exact (Except.ok.inj hof).symm
    have hspends : s.Spends limits id 0 :=
      ⟨hlimited ▸ hzero, store, hs, hstore, Store.spent_of_untracked hnew⟩
    obtain ⟨hanswers, hlast⟩ := hspends.run htracked
    obtain ⟨v, hv⟩ := exists_visitor_of_tracksAlong hsome htracked
    obtain ⟨hspent, hallowance⟩ := hlast.spent_of_visitor hv
    rw [Nat.zero_add] at hspent
    rw [hlimited] at hanswers hallowance
    refine ⟨hanswers, v, hv, ?_, fun now => ?_⟩
    · exact hallowance ▸ hspent.tokens
    · rw [hspent.nextAvailable now, hallowance]

/-- Two tokens: for a bucket whose clock goes back and forth, and for an identifier that asks four
times, with others and a pass in between. -/
theorem zero_rate_is_quota_of_two_tokens :
    let hour : Instant := ⟨3600000000000, by decide⟩
    let commands : List Command := [.allow "alice", .allow "bob", .setClock hour,
      .allowMany "alice" 2, .setClock .epoch, .reclaim, .allow "alice"]
    (1 : UInt32) ≤ 2 ∧
      (∃ a, Allowance.of? (.zero true) 2 = .ok a ∧
        (Bucket.full a .epoch).answers [hour, .epoch, hour, .epoch] =
          [true, true, false, false]) ∧
      Limits.ofConfig Limits.twoInAll.toConfig = .ok .twoInAll ∧
      (start .twoInAll .epoch).tracksAlong "alice" commands = true ∧
      Rationed "alice" 2 0 ((start .twoInAll .epoch).transcript commands) ∧
      ∃ v, ((start .twoInAll .epoch).run commands).1.visitor? "alice" = some (some v) ∧
        v.bucket.nextAvailable hour = none := by
  intro hour commands
  have hburst : (1 : UInt32) ≤ 2 := by decide
  obtain ⟨a, ha, hbucket, hstore⟩ := zero_rate_is_quota true 2 hburst
  have hlimits := Limits.ofConfig_toConfig .twoInAll
  have htracked : (start .twoInAll .epoch).tracksAlong "alice" commands = true := by
    decide +kernel
  obtain ⟨hanswers, v, hv, -, hnext⟩ := hstore _ _ rfl rfl hlimits _ _ rfl .empty "alice" commands
    rfl (List.cons_ne_nil _ _) htracked
  exact ⟨hburst, ⟨a, ha, (hbucket .epoch _).1⟩, hlimits, htracked, hanswers, v, hv, hnext hour⟩

end Session

end Admission
