import Admission.Proofs.Bucket.Refill

/-!
# Conservation of tokens

However its calls are timed, a bucket hands out no more than it held and was refilled with.  The
account is kept call by call: what a call admits and what it leaves is at most what was there,
what the time since the last call brought, and one rounding of a count below the burst.  Time
that runs backwards brings nothing, but the next step forward is counted from the earlier
instant.

* `Holds.allow_conserves`, `Holds.allow_ledger` — the account of one call;
* `Holds.replay_ledger` — the account of a run, by induction on its calls.

A bucket in any state that calls can bring about thus admits at most its burst, rate times
forward time, and the roundings.
-/

namespace Admission

/-- Forward seconds along a run of instants; steps backwards count nothing. -/
def Instant.forwardAlong : Instant → List Instant → ℚ
  | _, [] => 0
  | start, now :: rest => start.forwardSeconds now + forwardAlong now rest

namespace Bucket

/-- The answers to calls at the given instants, one after another. -/
def answers (b : Bucket) : List Instant → List Bool
  | [] => []
  | now :: rest => (b.allow now).1 :: answers (b.allow now).2 rest

/-- How many of the calls are admitted. -/
def admitted (b : Bucket) (calls : List Instant) : ℕ :=
  (b.answers calls).count true

variable {b : Bucket} {t : ℚ}

theorem admitted_cons (b : Bucket) (now : Instant) (rest : List Instant) :
    b.admitted (now :: rest) =
      (if (b.allow now).1 = true then 1 else 0) + (b.allow now).2.admitted rest := by
  simp only [admitted, answers, List.count_cons, beq_iff_eq]
  omega

theorem replay_cons (b : Bucket) (now : Instant) (rest : List Instant) :
    b.replay (now :: rest) = (b.allow now).2.replay rest := rfl

theorem replay_concat (b : Bucket) (calls : List Instant) (now : Instant) :
    b.replay (calls ++ [now]) = ((b.replay calls).allow now).2 := by
  rw [replay, List.foldl_append]
  rfl

theorem length_answers (b : Bucket) (calls : List Instant) :
    (b.answers calls).length = calls.length := by
  induction calls generalizing b with
  | nil => rfl
  | cons now rest ih => rw [answers, List.length_cons, List.length_cons, ih]

theorem answers_concat (b : Bucket) (calls : List Instant) (now : Instant) :
    b.answers (calls ++ [now]) = b.answers calls ++ [((b.replay calls).allow now).1] := by
  induction calls generalizing b with
  | nil => rfl
  | cons first rest ih => rw [List.cons_append, answers, ih, answers, replay_cons, List.cons_append]

@[simp] theorem replay_allowance (b : Bucket) (calls : List Instant) :
    (b.replay calls).allowance = b.allowance := by
  induction calls generalizing b with
  | nil => rfl
  | cons now rest ih => rw [replay_cons, ih, allow_allowance]

/-- **One call.**  What it hands out and what it leaves are what the bucket was refilled to. -/
theorem Holds.allow_conserves (h : b.Holds t) (now : Instant) :
    ∃ left, (b.allow now).2.Holds left ∧
      (if (b.allow now).1 = true then 1 else 0) + left = b.refilled t now := by
  obtain ⟨hgranted, hleft⟩ := h.allow now
  refine ⟨_, hleft, ?_⟩
  by_cases hwhole : 1 ≤ b.refilled t now
  · rw [if_pos hwhole, if_pos (hgranted.2 hwhole), add_sub_cancel]
  · rw [if_neg hwhole, if_neg (fun hc => hwhole (hgranted.1 hc)), zero_add]

/-- **The account of one call.** -/
theorem Holds.allow_ledger (h : b.Holds t) (now : Instant) :
    ∃ left, (b.allow now).2.Holds left ∧
      (if (b.allow now).1 = true then 1 else 0) + left ≤
        t + b.allowance.gained (b.lastUpdate.forwardSeconds now) 1 := by
  obtain ⟨left, hleft, hkept⟩ := h.allow_conserves now
  exact ⟨left, hleft, hkept.trans_le (b.refilled_le h.nonneg now)⟩

/-- Whatever the time since the last call brought, a call hands out and leaves at most the
burst. -/
theorem Holds.allow_le_burst (h : b.Holds t) (now : Instant) :
    ∃ left, (b.allow now).2.Holds left ∧
      (if (b.allow now).1 = true then 1 else 0) + left ≤ (b.allowance.burst.toNat : ℚ) := by
  obtain ⟨left, hleft, hkept⟩ := h.allow_conserves now
  exact ⟨left, hleft, hkept.trans_le (b.refilled_le_burst t now)⟩

/-- **The account of a run.** -/
theorem Holds.replay_ledger (h : b.Holds t) (calls : List Instant) :
    ∃ left, (b.replay calls).Holds left ∧
      b.admitted calls + left ≤
        t + b.allowance.gained (b.lastUpdate.forwardAlong calls) calls.length := by
  induction calls generalizing b t with
  | nil =>
    refine ⟨t, h, ?_⟩
    simp [admitted, answers, Instant.forwardAlong, Allowance.gained]
  | cons now rest ih =>
    obtain ⟨middle, hmiddle, hfirst⟩ := h.allow_ledger now
    obtain ⟨left, hleft, hrest⟩ := ih hmiddle
    refine ⟨left, hleft, ?_⟩
    rw [allow_allowance, allow_lastUpdate] at hrest
    rw [admitted_cons, Instant.forwardAlong, List.length_cons, Nat.add_comm rest.length,
      Allowance.gained_add]
    push_cast
    linarith

/-- Every bucket that starts full holds a count, whatever calls came since. -/
theorem exists_holds_replay (a : Allowance) (start : Instant) (calls : List Instant) :
    ∃ t, ((full a start).replay calls).Holds t := by
  obtain ⟨left, hleft, -⟩ := (holds_full a start).replay_ledger calls
  exact ⟨left, hleft⟩

/-- **Conservation of tokens.**  From any state that calls in any order can bring a bucket to,
further calls in any order admit at most the burst, rate times forward time, and the
roundings. -/
theorem admitted_le_burst_add_refill (a : Allowance) (start : Instant)
    (earlier calls : List Instant) :
    (((full a start).replay earlier).admitted calls : ℚ) ≤
      a.burst.toNat + a.exactRate *
          ((full a start).replay earlier).lastUpdate.forwardAlong calls * (1 + 1 / 2 ^ 51) +
        calls.length * a.burst.toNat / 2 ^ 52 := by
  obtain ⟨t, ht⟩ := exists_holds_replay a start earlier
  obtain ⟨left, hleft, hledger⟩ := ht.replay_ledger calls
  have hstart := ht.le_burst
  have hend := hleft.nonneg
  have hallowance : ((full a start).replay earlier).allowance = a :=
    replay_allowance (full a start) earlier
  rw [hallowance] at hledger hstart
  unfold Allowance.gained at hledger
  linarith

end Bucket

end Admission
