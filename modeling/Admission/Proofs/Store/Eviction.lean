import Admission.Reclaimer
import Admission.Proofs.Store.Soundness

/-!
# Forgetting an idle visitor

A pass drops whoever was idle for longer than the idle period and whoever comes back starts with
a full bucket.  Where the idle period is long enough to fill a bucket, that makes no difference:
the bucket that was dropped would have been full again, exactly and at every later instant.

* `Limits.Refills` — an idle period that fills a bucket, with a little to spare for rounding;
* `serve_stale` — a stale visitor answers like a new one, and leaves the same visitor behind;
* `Store.Alike` — stores that no decision from an instant on can tell apart;
* `Alike.allow`, `Alike.reclaimed_left` — decisions on both sides keep stores alike, and so does
  a pass over one of them.
-/

namespace Admission

/-- The idle period is long enough to fill an empty bucket.  What it brings exceeds the burst
by more than the roundings of the time and of the gain can take away. -/
def Limits.Refills (l : Limits) : Prop :=
  (l.allowance.burst.toNat : ℚ) * (1 + 1 / 2 ^ 50) ≤
    l.allowance.exactRate * (l.expiresIn.nanoseconds / 1000000000)

instance (l : Limits) : Decidable l.Refills :=
  inferInstanceAs (Decidable (_ ≤ _))

namespace Visitor

/-- Whoever is stale has been idle for the whole period ever since. -/
theorem expiresIn_le_forwardSeconds {v : Visitor} {now later : Instant} {expiresIn : Duration}
    (hstale : v.isStale now expiresIn = true) (hlater : now.sinceEpoch ≤ later.sinceEpoch) :
    (expiresIn.nanoseconds : ℚ) / 1000000000 ≤ v.lastSeen.forwardSeconds later := by
  have hidle : (expiresIn.nanoseconds : Int) < now.sinceEpoch - v.lastSeen.sinceEpoch :=
    of_decide_eq_true hstale
  have hlong : expiresIn.nanoseconds ≤ (v.lastSeen.nanosecondsTo later).toNat := by
    unfold Instant.nanosecondsTo
    omega
  have hcast : (expiresIn.nanoseconds : ℚ) ≤ (v.lastSeen.nanosecondsTo later).toNat := by
    exact_mod_cast hlong
  unfold Instant.forwardSeconds
  linarith

/-- An idle period of at most a century is counted but for two roundings. -/
theorem expiresIn_le_countedSeconds {v : Visitor} {now later : Instant} {l : Limits}
    (hstale : v.isStale now l.expiresIn = true)
    (hlater : now.sinceEpoch ≤ later.sinceEpoch) :
    (l.expiresIn.nanoseconds : ℚ) / 1000000000 * (1 - 1 / 2 ^ 53) ^ 2 ≤
      v.lastSeen.countedSeconds later := by
  have hnonneg : (0 : ℚ) ≤ (l.expiresIn.nanoseconds : ℚ) / 1000000000 := by positivity
  have hcentury : l.expiresIn.nanoseconds ≤ 3153600000 * 1000000000 := l.expires_le
  have hcast : (l.expiresIn.nanoseconds : ℚ) ≤ 3153600000 * 1000000000 := by
    exact_mod_cast hcentury
  have hforward := expiresIn_le_forwardSeconds hstale hlater
  exact Instant.mul_le_countedSeconds hnonneg hforward (by linarith)

/-- **The bucket of a stale visitor is full again**, and stays so. -/
theorem Sound.tokensAt_stale {v : Visitor} {now later : Instant} {l : Limits}
    (hsound : v.Sound l.allowance) (hrefills : l.Refills)
    (hstale : v.isStale now l.expiresIn = true)
    (hlater : now.sinceEpoch ≤ later.sinceEpoch) :
    v.bucket.tokensAt later = l.allowance.capacity := by
  obtain ⟨hallowance, hupdate, t, hholds⟩ := hsound
  have hcounted := expiresIn_le_countedSeconds hstale hlater
  have hrate := l.allowance.exactRate_nonneg
  have hburst := l.allowance.one_le_burst
  have hgain : (l.allowance.burst.toNat : ℚ) ≤
      v.lastSeen.countedSeconds later * l.allowance.exactRate := by
    have hbrought := mul_le_mul_of_nonneg_right hcounted hrate
    unfold Limits.Refills at hrefills
    generalize (l.expiresIn.nanoseconds : ℚ) / 1000000000 = x at *
    generalize (l.allowance.burst.toNat : ℚ) = c at *
    calc c ≤ c * (1 + 1 / 2 ^ 50) * (1 - 1 / 2 ^ 53) ^ 2 := by linarith
      _ ≤ l.allowance.exactRate * x * (1 - 1 / 2 ^ 53) ^ 2 :=
        mul_le_mul_of_nonneg_right hrefills (by norm_num)
      _ = x * (1 - 1 / 2 ^ 53) ^ 2 * l.allowance.exactRate := by ring
      _ ≤ v.lastSeen.countedSeconds later * l.allowance.exactRate := hbrought
  rw [← hallowance, ← hupdate] at hgain
  rw [hholds.tokensAt_eq_capacity hgain, hallowance]

end Visitor

/-- **A stale visitor answers like a new one**, now and later, and becomes the same visitor. -/
theorem serve_stale {v : Visitor} {now later : Instant} {l : Limits}
    (hsound : v.Sound l.allowance) (hrefills : l.Refills)
    (hstale : v.isStale now l.expiresIn = true)
    (hlater : now.sinceEpoch ≤ later.sinceEpoch) :
    serve l.allowance (some v) later = serve l.allowance none later := by
  have hadvance : v.bucket.advance later = (Bucket.full l.allowance later).advance later := by
    unfold Bucket.advance
    rw [hsound.tokensAt_stale hrefills hstale hlater, Bucket.full_tokensAt, hsound.allowance]
    rfl
  show v.allow later = (Visitor.arriving l.allowance later).allow later
  unfold Visitor.allow Visitor.arriving
  rw [Bucket.allow_congr hadvance]

namespace Store

/-- **A pass does not change how an identifier is served** from then on. -/
theorem served_reclaimed {s : Store} (hsound : s.Sound) (hrefills : s.limits.Refills)
    {now later : Instant} (hlater : now.sinceEpoch ≤ later.sinceEpoch) (id : String) :
    (s.reclaimed now).served id later = s.served id later := by
  unfold served
  rw [visitor?_reclaimed, reclaimed_limits]
  cases hv : s.visitor? id with
  | none => rfl
  | some v =>
    cases hstale : v.isStale now s.limits.expiresIn with
    | false => rw [Option.filter_some_pos (by simp [hstale])]
    | true =>
      rw [Option.filter_some_neg (by simp [hstale])]
      exact (serve_stale (hsound id v hv) hrefills hstale hlater).symm

/-- Two stores that no decision from an instant on can tell apart. -/
structure Alike (now : Instant) (s t : Store) : Prop where
  limits : s.limits = t.limits
  uncapped : s.Uncapped
  refills : s.limits.Refills
  sound_left : s.Sound
  sound_right : t.Sound
  served : ∀ id later, now.sinceEpoch ≤ later.sinceEpoch → s.served id later = t.served id later

namespace Alike

variable {now : Instant} {s t : Store}

theorem uncapped_right (h : Alike now s t) : t.Uncapped :=
  h.uncapped.congr h.limits

/-- Stores that are alike stay so as the clock moves on. -/
theorem later (h : Alike now s t) {now' : Instant} (hnow : now.sinceEpoch ≤ now'.sinceEpoch) :
    Alike now' s t where
  limits := h.limits
  uncapped := h.uncapped
  refills := h.refills
  sound_left := h.sound_left
  sound_right := h.sound_right
  served := by
    intro id later hlater
    exact h.served id later (hnow.trans hlater)

theorem answer_eq (h : Alike now s t) (id : String) :
    (s.allow id now).answer = (t.allow id now).answer := by
  rw [(allow_of_served (h.uncapped.refused_eq_none id) now).1,
    (allow_of_served (h.uncapped_right.refused_eq_none id) now).1, h.served id now (le_refl _)]

/-- A decision on both sides keeps two stores alike. -/
theorem allow (h : Alike now s t) (id : String) :
    Alike now (s.allow id now).state (t.allow id now).state where
  limits := by rw [allow_limits, allow_limits, h.limits]
  uncapped := by rw [Uncapped, allow_limits, h.uncapped]
  refills := by rw [allow_limits]; exact h.refills
  sound_left := h.sound_left.allow id now
  sound_right := h.sound_right.allow id now
  served := by
    intro other later hlater
    have hlimits : (s.allow id now).state.limits = (t.allow id now).state.limits := by
      rw [allow_limits, allow_limits, h.limits]
    by_cases hid : other = id
    · subst hid
      apply served_congr hlimits
      rw [visitor?_allow_self (h.uncapped.refused_eq_none other),
        visitor?_allow_self (h.uncapped_right.refused_eq_none other),
        h.served other now (le_refl _)]
    · rw [served_congr (allow_limits s id now) (visitor?_allow_other s hid now),
        served_congr (allow_limits t id now) (visitor?_allow_other t hid now)]
      exact h.served other later hlater

theorem allowMany (h : Alike now s t) (id : String) (n : Nat) :
    Alike now (s.allowMany id now n).2 (t.allowMany id now n).2 :=
  allowMany_rel (fun _ _ h => h.allow id) h n

/-- Of many requests the same number is admitted. -/
theorem admitted_eq (h : Alike now s t) (id : String) (n : Nat) :
    (s.allowMany id now n).1 = (t.allowMany id now n).1 :=
  admitted_eq_of_rel (fun _ _ h => h.allow id) (fun _ _ h => h.answer_eq id) h n

theorem clear (h : Alike now s t) : Alike now s.clear t.clear where
  limits := h.limits
  uncapped := h.uncapped
  refills := h.refills
  sound_left := sound_clear s
  sound_right := sound_clear t
  served := by
    intro id later _
    exact served_congr h.limits rfl

/-- **A pass over one of two stores keeps them alike.** -/
theorem reclaimed_left (h : Alike now s t) : Alike now (s.reclaimed now) t where
  limits := h.limits
  uncapped := h.uncapped
  refills := h.refills
  sound_left := h.sound_left.reclaimed now
  sound_right := h.sound_right
  served := by
    intro id later hlater
    rw [served_reclaimed h.sound_left h.refills hlater id]
    exact h.served id later hlater

theorem passes_left (h : Alike now s t) (n : Nat) : Alike now (Reclaimer.passes s now n).1 t := by
  induction n generalizing s with
  | zero => exact h
  | succ n ih => exact ih h.reclaimed_left

end Alike

end Store

end Admission
