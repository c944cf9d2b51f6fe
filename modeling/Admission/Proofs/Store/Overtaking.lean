import Admission.Proofs.Bucket.Conservation
import Admission.Proofs.Store.Soundness

/-!
# Calls that overtake each other

A call reads the clock first and gets its turn at the store later, with the reading it took.
Other calls may have their turns in between, so the store sees readings that go back although
the clock never does.  A bucket that has seen an older reading counts on from there, and the time
up to the reading before is brought in a second time.  That time is the lateness of a run: where
no call is overtaken there is none.

* `Overlap`, `Move` — calls on one identifier at every stage, and what can happen next;
* `Overlap.lateness` — how far the turns fell behind the turns before them;
* `Overlap.Accounted` — the account of what was admitted, and where the readings lie;
* `Accounted.step`, `Accounted.run` — every move keeps the account.
-/

namespace Admission

namespace Instant

/-- Forward seconds along readings, the last one first. -/
def risen : List Instant → ℚ
  | now :: before :: rest => before.forwardSeconds now + risen (before :: rest)
  | _ => 0

/-- Seconds by which readings fall behind the ones before them, the last one first. -/
def fallen : List Instant → ℚ
  | now :: before :: rest => now.forwardSeconds before + fallen (before :: rest)
  | _ => 0

/-- **Readings rise by the time that passed and by what they fell.** -/
theorem risen_le {start now : Instant} {readings : List Instant}
    (h : ∀ reading ∈ now :: readings, start.sinceEpoch ≤ reading.sinceEpoch) :
    risen (now :: readings) ≤ start.forwardSeconds now + fallen (now :: readings) := by
  induction readings generalizing now with
  | nil =>
    have hnonneg := start.forwardSeconds_nonneg now
    simpa [risen, fallen] using hnonneg
  | cons before rest ih =>
    have hnow := h now (by simp)
    have hbefore := h before (by simp)
    have hrest := ih (fun reading hreading => h reading (List.mem_cons_of_mem _ hreading))
    unfold risen fallen
    rcases le_total before.sinceEpoch now.sinceEpoch with hle | hle
    · have hup := forwardSeconds_trans hbefore hle
      have hdown := now.forwardSeconds_nonneg before
      linarith
    · have hdown := forwardSeconds_trans hnow hle
      rw [forwardSeconds_eq_zero hle]
      linarith

/-- Readings that never go back do not fall. -/
theorem fallen_eq_zero {readings : List Instant}
    (h : readings.Pairwise fun now before => before.sinceEpoch ≤ now.sinceEpoch) :
    fallen readings = 0 := by
  induction readings with
  | nil => rfl
  | cons now readings ih =>
    cases readings with
    | nil => rfl
    | cons before rest =>
      obtain ⟨hnow, hrest⟩ := List.pairwise_cons.1 h
      rw [fallen, ih hrest, forwardSeconds_eq_zero (hnow before (by simp)), add_zero]

end Instant

/-! ## The account of a call -/

namespace Store

variable {s : Store} {id : String}

/-- A call on any visitor, or on a new one, admits and leaves at most the burst. -/
theorem Sound.served_le_burst (h : s.Sound) (id : String) (now : Instant) :
    ∃ left, (s.served id now).2.bucket.Holds left ∧
      (if (s.served id now).1 = true then 1 else 0) + left ≤
        (s.limits.allowance.burst.toNat : ℚ) := by
  obtain ⟨hallowance, -, t, hholds⟩ := h.getD_arriving id now
  obtain ⟨left, hleft, hbound⟩ := hholds.allow_le_burst now
  rw [hallowance] at hbound
  exact ⟨left, hleft, hbound⟩

/-- A call on a visitor admits and leaves what its bucket held and was refilled with. -/
theorem Sound.served_ledger (h : s.Sound) {v : Visitor} {t : ℚ} (hv : s.visitor? id = some v)
    (hholds : v.bucket.Holds t) (now : Instant) :
    ∃ left, (s.served id now).2.bucket.Holds left ∧
      (if (s.served id now).1 = true then 1 else 0) + left ≤
        t + s.limits.allowance.gained (v.bucket.lastUpdate.forwardSeconds now) 1 := by
  have hserved : s.served id now = v.allow now := by
    rw [Store.served, hv]
    rfl
  have hallowance := (h id v hv).allowance
  obtain ⟨left, hleft, hbound⟩ := hholds.allow_ledger now
  rw [hallowance] at hbound
  rw [hserved]
  exact ⟨left, hleft, hbound⟩

end Store

/-! ## Overlapping calls -/

/-- The turn that a call had: its reading, and the answer it got. -/
structure Turn where
  reading : Instant
  answer : Except StoreError Bool

/-- Whether the call was admitted. -/
def Turn.isAdmitted (t : Turn) : Bool :=
  match t.answer with
  | .ok true => true
  | _ => false

@[simp] theorem Turn.isAdmitted_ok (reading : Instant) (allowed : Bool) :
    (Turn.mk reading (.ok allowed)).isAdmitted = allowed := by
  cases allowed <;> rfl

/-- Calls on one identifier: the clock, the store, the readings of the calls that wait for their
turn, and the turns that were had, the last one first. -/
structure Overlap where
  clock : Instant
  store : Store
  waiting : List Instant
  turns : List Turn

/-- What can happen next: time passes, another call reads the clock, or one of the calls that
wait has its turn. -/
inductive Move where
  | tick (nanoseconds : Nat)
  | read
  | turn (place : Nat)

namespace Overlap

/-- The moment at which the first call reads the clock. -/
def opening (store : Store) (start : Instant) : Overlap :=
  ⟨start, store, [start], []⟩

/-- One move of the calls on an identifier.  The clock stands still where the calendar ends, and
nothing happens at a place where no call waits. -/
def step (o : Overlap) (id : String) : Move → Overlap
  | .tick nanoseconds => { o with clock := (o.clock.advance? nanoseconds).getD o.clock }
  | .read => { o with waiting := o.clock :: o.waiting }
  | .turn place =>
    match o.waiting[place]? with
    | some reading =>
      let reply := o.store.allow id reading
      { o with
        store := reply.state
        waiting := o.waiting.eraseIdx place
        turns := ⟨reading, reply.answer⟩ :: o.turns }
    | none => o

/-- What moves, one after another, lead to. -/
def run (o : Overlap) (id : String) (moves : List Move) : Overlap :=
  moves.foldl (fun o move => o.step id move) o

/-- How many calls there were. -/
def calls (o : Overlap) : ℕ :=
  o.waiting.length + o.turns.length

/-- How many calls were admitted. -/
def admitted (o : Overlap) : ℕ :=
  o.turns.countP Turn.isAdmitted

/-- The readings of the turns, the last one first. -/
def readings (o : Overlap) : List Instant :=
  o.turns.map Turn.reading

/-- Seconds by which the turns fell behind the turns before them. -/
def lateness (o : Overlap) : ℚ :=
  Instant.fallen o.readings

/-- No call was overtaken: the turns came in the order of their readings. -/
def InOrder (o : Overlap) : Prop :=
  o.readings.Pairwise fun now before => before.sinceEpoch ≤ now.sinceEpoch

instance (o : Overlap) : Decidable o.InOrder :=
  inferInstanceAs (Decidable (List.Pairwise _ _))

/-- What was admitted, and what is left in the bucket that the last turn saw, is accounted for by
the burst, by the rise of the readings and by the roundings. -/
def Balanced (o : Overlap) (id : String) (a : Allowance) : Prop :=
  match o.turns with
  | [] => True
  | last :: _ => ∃ v left, o.store.visitor? id = some v ∧
      v.bucket.lastUpdate = last.reading ∧ v.bucket.Holds left ∧
      o.admitted + left ≤
        a.burst.toNat + a.gained (Instant.risen o.readings) o.turns.length

/-- The account of overlapping calls since the first of them read the clock. -/
structure Accounted (id : String) (a : Allowance) (start : Instant) (o : Overlap) : Prop where
  uncapped : o.store.Uncapped
  allowance : o.store.limits.allowance = a
  sound : o.store.Sound
  clock : start.sinceEpoch ≤ o.clock.sinceEpoch
  waiting : ∀ reading ∈ o.waiting,
    start.sinceEpoch ≤ reading.sinceEpoch ∧ reading.sinceEpoch ≤ o.clock.sinceEpoch
  readings : ∀ reading ∈ o.readings,
    start.sinceEpoch ≤ reading.sinceEpoch ∧ reading.sinceEpoch ≤ o.clock.sinceEpoch
  balanced : o.Balanced id a

namespace Accounted

variable {id : String} {a : Allowance} {start : Instant} {o : Overlap}

/-- Time that passes changes nothing but the clock. -/
theorem tick (h : Accounted id a start o) (nanoseconds : Nat) :
    Accounted id a start (o.step id (.tick nanoseconds)) := by
  have hclock : o.clock.sinceEpoch ≤
      ((o.clock.advance? nanoseconds).getD o.clock).sinceEpoch := by
    unfold Instant.advance? Instant.ofNanoseconds?
    split
    · show o.clock.sinceEpoch ≤ o.clock.sinceEpoch + nanoseconds
      omega
    · exact le_refl _
  refine ⟨h.uncapped, h.allowance, h.sound, h.clock.trans hclock, ?_, ?_, h.balanced⟩
  · intro reading hreading
    obtain ⟨hstart, hend⟩ := h.waiting reading hreading
    exact ⟨hstart, hend.trans hclock⟩
  · intro reading hreading
    obtain ⟨hstart, hend⟩ := h.readings reading hreading
    exact ⟨hstart, hend.trans hclock⟩

/-- Another call reads the clock. -/
theorem read (h : Accounted id a start o) : Accounted id a start (o.step id .read) := by
  refine ⟨h.uncapped, h.allowance, h.sound, h.clock, ?_, h.readings, h.balanced⟩
  intro reading hreading
  rcases List.mem_cons.1 hreading with rfl | hold
  · exact ⟨h.clock, le_refl _⟩
  · exact h.waiting reading hold

/-- What a turn admits and leaves is accounted for.  The first turn finds at most a full bucket;
any other finds what the turn before it left, and what the rise of the reading brings. -/
theorem balanced_turn (h : Accounted id a start o) {place : Nat} {reading : Instant}
    (hplace : o.waiting[place]? = some reading) : (o.step id (.turn place)).Balanced id a := by
  have hfree := h.uncapped.refused_eq_none id
  obtain ⟨hanswer, -⟩ := Store.allow_of_served hfree reading
  have hvisitor := Store.visitor?_allow_self hfree reading
  have hupdate : (o.store.served id reading).2.bucket.lastUpdate = reading :=
    Bucket.allow_lastUpdate _ reading
  have hadmitted : (o.step id (.turn place)).admitted =
      (if (o.store.served id reading).1 = true then 1 else 0) + o.admitted := by
    simp only [step, hplace, admitted, List.countP_cons, hanswer, Turn.isAdmitted_ok]
    omega
  have hstore : (o.step id (.turn place)).store = (o.store.allow id reading).state := by
    simp only [step, hplace]
  have hturns : (o.step id (.turn place)).turns =
      ⟨reading, (o.store.allow id reading).answer⟩ :: o.turns := by
    simp only [step, hplace]
  unfold Balanced
  rw [hadmitted, hstore, Overlap.readings, hturns, hvisitor]
  cases hearlier : o.turns with
  | nil =>
    obtain ⟨left, hleft, hfirst⟩ := h.sound.served_le_burst id reading
    rw [h.allowance] at hfirst
    have hgained := a.gained_nonneg (le_refl 0) 1
    refine ⟨_, left, rfl, hupdate, hleft, ?_⟩
    simp only [Overlap.admitted, hearlier, List.map_cons, List.map_nil, Instant.risen,
      List.countP_nil, List.length_cons, List.length_nil]
    push_cast
    linarith
  | cons last earlier =>
    have hbalanced := h.balanced
    rw [Balanced, hearlier] at hbalanced
    obtain ⟨v, left, hv, hlast, hholds, hledger⟩ := hbalanced
    obtain ⟨left', hleft', hturn⟩ := h.sound.served_ledger hv hholds reading
    rw [h.allowance, hlast] at hturn
    refine ⟨_, left', rfl, hupdate, hleft', ?_⟩
    have hmore := a.gained_add (last.reading.forwardSeconds reading)
      (Instant.risen (last.reading :: earlier.map Turn.reading)) 1 (earlier.length + 1)
    rw [Overlap.readings, hearlier] at hledger
    simp only [List.map_cons, Instant.risen, List.length_cons] at hledger ⊢
    rw [Nat.add_comm (earlier.length + 1), hmore]
    push_cast
    linarith

/-- A call that waits has its turn. -/
theorem turn (h : Accounted id a start o) (place : Nat) :
    Accounted id a start (o.step id (.turn place)) := by
  cases hplace : o.waiting[place]? with
  | none =>
    have hstay : o.step id (.turn place) = o := by simp only [step, hplace]
    rw [hstay]
    exact h
  | some reading =>
    have hbalanced := h.balanced_turn hplace
    have hwaits := h.waiting reading (List.mem_of_getElem? hplace)
    simp only [step, hplace] at hbalanced ⊢
    refine ⟨?_, ?_, h.sound.allow id reading, h.clock, ?_, ?_, hbalanced⟩
    · rw [Store.Uncapped, Store.allow_limits]
      exact h.uncapped
    · rw [Store.allow_limits]
      exact h.allowance
    · intro other hother
      exact h.waiting other (List.mem_of_mem_eraseIdx hother)
    · intro other hother
      rcases List.mem_cons.1 hother with rfl | hold
      · exact hwaits
      · exact h.readings other hold

/-- **Every move keeps the account.** -/
theorem step (h : Accounted id a start o) (move : Move) :
    Accounted id a start (o.step id move) := by
  cases move with
  | tick nanoseconds => exact h.tick nanoseconds
  | read => exact h.read
  | turn place => exact h.turn place

/-- **So does every run.** -/
theorem run (h : Accounted id a start o) (moves : List Move) :
    Accounted id a start (o.run id moves) := by
  induction moves generalizing o with
  | nil => exact h
  | cons move rest ih => exact ih (h.step move)

/-- What was admitted is at most the burst and what the rise of the readings gained. -/
theorem admitted_le_burst_add_risen (h : Accounted id a start o) :
    (o.admitted : ℚ) ≤
      a.burst.toNat + a.gained (Instant.risen o.readings) o.turns.length := by
  have hbalanced := h.balanced
  unfold Balanced at hbalanced
  cases hturns : o.turns with
  | nil =>
    have hburst : (0 : ℚ) ≤ a.burst.toNat := Nat.cast_nonneg _
    have hgained := a.gained_nonneg (le_refl 0) 0
    simp only [Overlap.admitted, Overlap.readings, hturns, List.map_nil, Instant.risen,
      List.countP_nil, List.length_nil]
    push_cast
    linarith
  | cons last earlier =>
    rw [hturns] at hbalanced
    obtain ⟨v, left, -, -, hholds, hledger⟩ := hbalanced
    have hleft := hholds.nonneg
    linarith

/-- The readings rise by the time that passed, and by the lateness. -/
theorem risen_le (h : Accounted id a start o) :
    Instant.risen o.readings ≤ start.forwardSeconds o.clock + o.lateness := by
  have hreadings := h.readings
  unfold lateness
  cases hlist : o.readings with
  | nil =>
    have hpassed := start.forwardSeconds_nonneg o.clock
    simpa [Instant.risen, Instant.fallen] using hpassed
  | cons last earlier =>
    rw [hlist] at hreadings
    have hrise := Instant.risen_le fun reading hreading => (hreadings reading hreading).1
    have hlast := (hreadings last (by simp)).2
    have hend : start.forwardSeconds last ≤ start.forwardSeconds o.clock :=
      Instant.forwardSeconds_mono hlast
    linarith

end Accounted

/-- The account is opened when the first call reads the clock. -/
theorem accounted_opening {limits : Limits} {store : Store}
    (hstore : Store.Reachable limits store) (huncapped : limits.maxVisitors = none) (id : String)
    (start : Instant) : Accounted id limits.allowance start (opening store start) := by
  have hlimits := hstore.limits_eq
  refine ⟨?_, by rw [opening, hlimits], hstore.sound, le_refl _, ?_, ?_, trivial⟩
  · rw [opening, Store.Uncapped, hlimits]
    exact huncapped
  · intro reading hreading
    obtain rfl : reading = start := List.mem_singleton.1 hreading
    exact ⟨le_refl _, le_refl _⟩
  · intro reading hreading
    cases hreading

/-- **Overlapping calls are admitted by the burst, the time and the lateness.**  Where the calls
have their turns in the order of their readings, the time that passed since the first of them
read the clock is all that counts. -/
theorem admitted_le_burst_add_lateness {limits : Limits} {store : Store}
    (hstore : Store.Reachable limits store) (huncapped : limits.maxVisitors = none) (id : String)
    (start : Instant) (moves : List Move) :
    let o := (opening store start).run id moves
    let burst : ℚ := limits.allowance.burst.toNat
    let rate := limits.allowance.exactRate
    (o.admitted : ℚ) ≤
        burst + rate * (start.forwardSeconds o.clock + o.lateness) * (1 + 1 / 2 ^ 51) +
          o.calls * burst / 2 ^ 52 ∧
      (o.InOrder → (o.admitted : ℚ) ≤
        burst + rate * start.forwardSeconds o.clock * (1 + 1 / 2 ^ 51) +
          o.calls * burst / 2 ^ 52) := by
  intro o burst rate
  have haccounted : Accounted id limits.allowance start o :=
    (accounted_opening hstore huncapped id start).run moves
  have hbound : (o.admitted : ℚ) ≤
      burst + rate * (start.forwardSeconds o.clock + o.lateness) * (1 + 1 / 2 ^ 51) +
        o.calls * burst / 2 ^ 52 := by
    have hadmitted := haccounted.admitted_le_burst_add_risen
    have hcalls : o.turns.length ≤ o.calls := Nat.le_add_left _ _
    have hgained := limits.allowance.gained_mono haccounted.risen_le hcalls
    unfold Allowance.gained at hadmitted hgained
    linarith
  refine ⟨hbound, ?_⟩
  intro horder
  have hlate : o.lateness = 0 := Instant.fallen_eq_zero horder
  rw [hlate, add_zero] at hbound
  exact hbound

/-- Two calls that have their turns in order, the second after the bucket was refilled. -/
theorem admitted_le_burst_add_lateness_of_two_calls :
    Store.Reachable .oneASecond (.empty .oneASecond) ∧
      Limits.oneASecond.maxVisitors = none ∧
      let o := (opening (.empty .oneASecond) .epoch).run "alice"
        [.turn 0, .tick 1000000000, .read, .turn 0]
      o.InOrder ∧ o.admitted = 2 ∧
        (o.admitted : ℚ) ≤
          (Limits.oneASecond.allowance.burst.toNat : ℚ) +
            Limits.oneASecond.allowance.exactRate *
              Instant.epoch.forwardSeconds o.clock * (1 + 1 / 2 ^ 51) +
            o.calls * Limits.oneASecond.allowance.burst.toNat / 2 ^ 52 := by
  have hstore : Store.Reachable .oneASecond (.empty .oneASecond) := .empty
  have horder : ((opening (.empty .oneASecond) .epoch).run "alice"
      [.turn 0, .tick 1000000000, .read, .turn 0]).InOrder := by decide +kernel
  have hbound := (admitted_le_burst_add_lateness hstore rfl "alice" .epoch
    [.turn 0, .tick 1000000000, .read, .turn 0]).2 horder
  exact ⟨hstore, rfl, horder, by decide +kernel, hbound⟩

/-- **An overtaken call brings time in twice.**  One token a second and a burst of one: the call
that read the clock at the start has its turn after one that read it a second later, and another
call finds that second's token again.  Three of four calls are admitted within a second. -/
theorem overtaken_calls_exceed_burst_add_refill :
    let o := (opening (.empty .oneASecond) .epoch).run "alice"
      [.read, .turn 1, .tick 1000000000, .read, .turn 0, .turn 0, .read, .turn 0]
    o.admitted = 3 ∧ o.calls = 4 ∧
      ¬ (o.admitted : ℚ) ≤
        (Limits.oneASecond.allowance.burst.toNat : ℚ) +
          Limits.oneASecond.allowance.exactRate *
            Instant.epoch.forwardSeconds o.clock * (1 + 1 / 2 ^ 51) +
          o.calls * Limits.oneASecond.allowance.burst.toNat / 2 ^ 52 := by
  decide +kernel

end Overlap

end Admission
