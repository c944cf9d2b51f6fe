import Admission.Proofs.Session.History
import Admission.Proofs.Store.Capacity

/-!
# What the log tells of a store

Whoever reads the log, by its messages and fields alone, knows how many identifiers are tracked:
arrivals are logged one by one, and passes with how many they removed and how many they left.  The
two accounts agree, at the end of a run and at every pass on the way.

* `Event.tells`, `Event.number?` — an event as a reader of the log sees it;
* `arrivals`, `removals` — what the log says of comings and goings;
* `Reconciled` — the log up to a point, and the number of identifiers at that point;
* `Accounts` — what is logged of a decision;
* `Reconciles.step`, `Reconciles.run` — every command that is logged keeps log and store together;
* `log_reconstructs_registry` — what follows for runs that start with an empty store.
-/

namespace Admission

/-! ## Reading a log -/

/-- Whether an event has a message. -/
def Event.tells (message : String) (e : Event) : Bool :=
  e.message == message

/-- The number in an event's field of a name. -/
def Event.number? (name : String) (e : Event) : Option Nat :=
  (e.fields.find? fun f => f.name == name).bind fun f =>
    match f.value with
    | .count n => some n
    | _ => none

/-- Whether an event tells that somebody new is tracked. -/
def Event.isArrival : Event → Bool :=
  Event.tells "Tracking new visitor"

/-- Whether an event tells of a pass. -/
def Event.isPass : Event → Bool :=
  Event.tells "Reclaimed stale visitors"

/-- How many arrivals a log tells of. -/
def arrivals (log : List Event) : Nat :=
  log.countP Event.isArrival

/-- How many visitors the passes of a log removed, as they tell themselves. -/
def removals (log : List Event) : Nat :=
  ((log.filter Event.isPass).filterMap (Event.number? "removed")).sum

/-- An event tells of a pass that found so many visitors and left so many of them. -/
structure Event.TellsPass (e : Event) (found left : Nat) : Prop where
  isPass : e.isPass = true
  left_le : left ≤ found
  removed : e.number? "removed" = some (found - left)
  remaining : e.number? "remaining" = some left

/-- A message is told once among the events, with the given fields. -/
def ToldOnce (events : List Event) (message : String) (fields : List Field) : Prop :=
  ∃ e, events.filter (Event.tells message) = [e] ∧ e.fields = fields

/-- A message is not told among the events. -/
def Untold (events : List Event) (message : String) : Prop :=
  events.filter (Event.tells message) = []

/-- What a log comes to: so many are tracked as have arrived and were not removed, and every pass
tells how many that are where it stands in the log. -/
structure Reconciled (log : List Event) (size : Nat) : Prop where
  balance : size + removals log = arrivals log
  passes : ∀ before e after, log = before ++ e :: after → e.isPass = true →
    ∃ remaining, e.number? "remaining" = some remaining ∧
      remaining + removals (before ++ [e]) = arrivals (before ++ [e])

section

variable {log more : List Event} {e : Event} {size : Nat}

theorem arrivals_append (log more : List Event) :
    arrivals (log ++ more) = arrivals log + arrivals more :=
  List.countP_append

theorem removals_append (log more : List Event) :
    removals (log ++ more) = removals log + removals more := by
  simp only [removals, List.filter_append, List.filterMap_append, List.sum_append]

namespace Reconciled

theorem nil : Reconciled [] 0 where
  balance := rfl
  passes before e after h := by simp at h

/-- An event that accounts for the change of the size, and for the size itself if it tells of a
pass, keeps the log and the size together. -/
theorem concat (h : Reconciled log size) {left : Nat}
    (hbalance : left + removals [e] = size + arrivals [e])
    (hpass : e.isPass = true → e.number? "remaining" = some left) :
    Reconciled (log ++ [e]) left := by
  have hnow : left + removals (log ++ [e]) = arrivals (log ++ [e]) := by
    have hbefore := h.balance
    rw [removals_append, arrivals_append]
    omega
  refine ⟨hnow, fun before x after hsplit hx => ?_⟩
  rcases split_of_concat_eq hsplit with ⟨rfl, rfl, -⟩ | ⟨rest, -, hlog⟩
  · exact ⟨left, hpass hx, hnow⟩
  · exact h.passes before x rest hlog hx

/-- Somebody new is tracked. -/
theorem arrive (h : Reconciled log size) (id : String) :
    Reconciled (log ++ [.visitorTracked id]) (size + 1) :=
  h.concat rfl (by rintro ⟨⟩)

/-- A pass is over, and tells of itself. -/
theorem pass (h : Reconciled log size) {left : Nat} (he : e.TellsPass size left) :
    Reconciled (log ++ [e]) left := by
  have harrival : e.isArrival = false := by
    have htells : e.message = _ := beq_iff_eq.1 he.isPass
    rw [Event.isArrival, Event.tells, htells]
    rfl
  have harrivals : arrivals [e] = 0 := by simp [arrivals, harrival]
  have hremovals : removals [e] = size - left := by simp [removals, he.isPass, he.removed]
  have hle := he.left_le
  exact h.concat (by omega) fun _ => he.remaining

/-- An event that tells neither of an arrival nor of a pass changes nothing. -/
theorem other (h : Reconciled log size) (harrival : e.isArrival = false)
    (hpass : e.isPass = false) : Reconciled (log ++ [e]) size := by
  refine h.concat ?_ fun hyes => ?_
  · simp [removals, arrivals, harrival, hpass]
  · rw [hpass] at hyes
    cases hyes

end Reconciled

end

/-! ## A store -/

/-- What is logged of a decision on an identifier.  If it is served, that is the answer, once and
with the identifier, and its arrival if it is new; if it is refused, that is the refusal, once and
with the identifier and the cap, and neither of the others. -/
def Accounts (id : String) (new : Bool) (events : List Event) :
    Except StoreError Bool → Prop
  | .ok allowed =>
    ToldOnce events "Checked rate limit"
        [⟨"identifier", .text id⟩, ⟨"allowed", .truth allowed⟩] ∧
      Untold events "Visitor registry full, refusing new identifier" ∧
      if new then ToldOnce events "Tracking new visitor" [⟨"identifier", .text id⟩]
      else Untold events "Tracking new visitor"
  | .error (.capacityExceeded limit) =>
    ToldOnce events "Visitor registry full, refusing new identifier"
        [⟨"identifier", .text id⟩, ⟨"limit", .count limit⟩] ∧
      Untold events "Checked rate limit" ∧ Untold events "Tracking new visitor"
  | .error (.unavailable _) => False

namespace Store

variable {s : Store} {log : List Event}

/-- **A decision is accounted for.** -/
theorem accounts_allow (s : Store) (id : String) (now : Instant) :
    Accounts id (!s.contains id) (s.allow id now).events (s.allow id now).answer := by
  cases hrefused : s.refused id with
  | some limit =>
    rw [allow_eq_turnedAway hrefused]
    exact ⟨⟨_, rfl, rfl⟩, rfl, rfl⟩
  | none =>
    rw [allow_eq_enrolled hrefused, enrolled, enroll]
    cases s.contains id with
    | true => exact ⟨⟨_, rfl, rfl⟩, rfl, rfl⟩
    | false => exact ⟨⟨_, rfl, rfl⟩, rfl, _, rfl, rfl⟩

/-- A decision keeps the log and the store together. -/
theorem reconciled_allow (h : Reconciled log s.size) (id : String) (now : Instant) :
    Reconciled (log ++ (s.allow id now).events) (s.allow id now).state.size := by
  cases hrefused : s.refused id with
  | some limit =>
    rw [allow_eq_turnedAway hrefused]
    exact h.other rfl rfl
  | none =>
    rw [allow_eq_enrolled hrefused, enrolled_state, size_write, enrolled, enroll]
    cases s.contains id with
    | true => exact h.other rfl rfl
    | false =>
      show Reconciled (log ++ ([.visitorTracked id] ++ [_])) (s.size + 1)
      rw [← List.append_assoc]
      exact (h.arrive id).other rfl rfl

/-- **A pass is accounted for**, by one event. -/
theorem exists_tellsPass_reclaim (s : Store) (now : Instant) :
    ∃ e, s.reclaim now = (s.size - (s.reclaimed now).size, s.reclaimed now, [e]) ∧
      e.TellsPass s.size (s.reclaimed now).size :=
  ⟨_, rfl, rfl, s.size_reclaimed_le now, rfl, rfl⟩

/-- A pass keeps the log and the store together. -/
theorem reconciled_reclaim (h : Reconciled log s.size) (now : Instant) :
    Reconciled (log ++ (s.reclaim now).2.2) (s.reclaimed now).size := by
  obtain ⟨e, heq, he⟩ := s.exists_tellsPass_reclaim now
  rw [heq]
  exact h.pass he

/-- So does any number of them. -/
theorem reconciled_passes (h : Reconciled log s.size) (clock : Instant) (n : Nat) :
    Reconciled (log ++ (Reclaimer.passes s clock n).2) (Reclaimer.passes s clock n).1.size := by
  induction n generalizing s log with
  | zero => rwa [Reclaimer.passes, List.append_nil]
  | succ n ih =>
    have hrest := ih (s.reconciled_reclaim h clock)
    rwa [List.append_assoc] at hrest

end Store

/-! ## A session -/

/-- Whether the log tells what a command does to the visitors.  It does not of a clearing, nor of
many requests at once; and a store that is dropped takes its visitors with it. -/
def Command.isLogged : Command → Bool
  | .clear | .allowMany _ _ | .dropStore => false
  | _ => true

namespace Session

/-- What is logged along a run at any level, in order. -/
def log (s : Session) : List Command → List Event
  | [] => []
  | command :: rest => (s.step command).2.2 ++ (s.step command).1.log rest

/-- A session whose store is what the past log comes to. -/
def Reconciles (past : List Event) (s : Session) : Prop :=
  ∃ store, s.store = some store ∧ Reconciled past store.size

variable {past : List Event} {s : Session}

/-- **Every command that is logged keeps the log and the store together.** -/
theorem Reconciles.step (h : s.Reconciles past) {command : Command}
    (hlogged : command.isLogged = true) :
    (s.step command).1.Reconciles (past ++ (s.step command).2.2) := by
  obtain ⟨clock, store, elapsed, reclaimer⟩ := s
  obtain ⟨store, rfl, hpast⟩ := h
  have hsilent : Reconciled (past ++ []) store.size := by rwa [List.append_nil]
  cases command with
  | allow id => exact ⟨_, rfl, Store.reconciled_allow hpast id clock⟩
  | reclaim => exact ⟨_, rfl, Store.reconciled_reclaim hpast clock⟩
  | setClock _ | contains _ | isEmpty | visitor _ | isFinished | interval | dropReclaimer =>
    exact ⟨store, rfl, hsilent⟩
  | advanceClock nanoseconds =>
    simp only [Session.step]
    cases clock.advance? nanoseconds <;> exact ⟨store, rfl, hsilent⟩
  | spawn interval =>
    simp only [Session.step, stepStore]
    cases Reclaimer.spawn store.limits interval elapsed with
    | ok r => exact ⟨store, rfl, hpast.other rfl rfl⟩
    | error e => exact ⟨store, rfl, hsilent⟩
  | shutdown =>
    cases reclaimer with
    | some r => exact ⟨store, rfl, hpast.other rfl rfl⟩
    | none => exact ⟨store, rfl, hsilent⟩
  | elapse passage length =>
    cases reclaimer with
    | none => exact ⟨store, rfl, hsilent⟩
    | some r =>
      simp only [Session.step, elapse, Reclaimer.pass]
      cases r.finished with
      | true => exact ⟨store, rfl, hsilent⟩
      | false => exact ⟨_, rfl, Store.reconciled_passes hpast clock _⟩
  | clear | allowMany _ _ | dropStore => cases hlogged

theorem Reconciles.run (h : s.Reconciles past) {commands : List Command}
    (hlogged : ∀ command ∈ commands, command.isLogged = true) :
    (s.run commands).1.Reconciles (past ++ s.log commands) := by
  induction commands generalizing s past with
  | nil => rwa [log, List.append_nil]
  | cons command rest ih =>
    have hstep := h.step (hlogged command List.mem_cons_self)
    have hrest := ih hstep fun later hlater => hlogged later (List.mem_cons_of_mem _ hlater)
    rwa [List.append_assoc] at hrest

/-- **The log tells how many are tracked.**  After any run of requests, passes, the reclaimer's too,
and moves of the clock over a store that started empty, the store has as many identifiers as the log
tells arrivals, less the visitors that the passes in it tell to have removed; and each of those
passes tells, where it stands in the log, how many that leaves.  A pass that comes next is one event,
which tells what it removes and what it leaves.  A decision that comes next is told once, with its
identifier and its answer; or it is a refusal, and then that is told once and nothing else is. -/
theorem log_reconstructs_registry (limits : Limits) (now : Instant) {commands : List Command}
    (hlogged : ∀ command ∈ commands, command.isLogged = true) :
    let s := ((start limits now).run commands).1
    ∃ store, s.store = some store ∧ Reconciled ((start limits now).log commands) store.size ∧
      (∃ kept e, (s.step .reclaim).1.store = some kept ∧
        (s.step .reclaim).2 = (.removed (store.size - kept.size), [e]) ∧
        e.TellsPass store.size kept.size) ∧
      ∀ id, ∃ result, (s.step (.allow id)).2.1 = .decision result ∧
        Accounts id (!store.contains id) (s.step (.allow id)).2.2 result := by
  intro s
  have hstart : (start limits now).Reconciles [] := ⟨.empty limits, rfl, .nil⟩
  obtain ⟨store, hstore, hreconciled⟩ := hstart.run hlogged
  obtain ⟨e, hreclaim, he⟩ := store.exists_tellsPass_reclaim s.clock
  have hpass : s.step .reclaim = ({ s with store := some (store.reclaimed s.clock) },
      .removed (store.size - (store.reclaimed s.clock).size), [e]) := by
    simp only [s, Session.step, hstore, stepStore, hreclaim]
  have hallow : ∀ id, (s.step (.allow id)).2 =
      (.decision (store.allow id s.clock).answer, (store.allow id s.clock).events) := by
    intro id
    simp only [s, Session.step, hstore, stepStore]
  refine ⟨store, hstore, hreconciled, ⟨store.reclaimed s.clock, e, ?_, ?_, he⟩,
    fun id => ⟨(store.allow id s.clock).answer, ?_, ?_⟩⟩
  · rw [hpass]
  · rw [hpass]
  · rw [hallow]
  · rw [hallow]
    exact store.accounts_allow id s.clock

/-- Alice is removed by a pass, and Bob, who was refused before, is tracked in her place: two
arrivals, one removal, and one identifier in the store. -/
theorem log_reconstructs_registry_of_two_visitors :
    let commands : List Command :=
      [.allow "alice", .allow "bob", .advanceClock 61000000000, .reclaim, .allow "bob"]
    let log := (start .oneVisitor .epoch).log commands
    (∀ command ∈ commands, command.isLogged = true) ∧ arrivals log = 2 ∧ removals log = 1 ∧
      ∃ store, ((start .oneVisitor .epoch).run commands).1.store = some store ∧
        Reconciled log store.size ∧ store.size = 1 := by
  intro commands log
  have hlogged : ∀ command ∈ commands, command.isLogged = true := by decide
  have harrivals : arrivals log = 2 := by decide +kernel
  have hremovals : removals log = 1 := by decide +kernel
  obtain ⟨store, hstore, hreconciled, -⟩ := log_reconstructs_registry .oneVisitor .epoch hlogged
  have hbalance : store.size + removals log = arrivals log := hreconciled.balance
  rw [harrivals, hremovals] at hbalance
  exact ⟨hlogged, harrivals, hremovals, store, hstore, hreconciled, Nat.succ.inj hbalance⟩

end Session
end Admission
