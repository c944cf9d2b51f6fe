import Admission.Event
import Admission.Roster

/-!
# Stores

A store keeps a bucket for every identifier it has seen lately.  To admit an identifier is three
sections, each on the store as it then stands: charge the identifier if it is tracked, refuse a
new one if the store is full, and else track it and charge it.  `Store.allow` runs the three at
once.

* `Store.charge?`, `Store.refusal?`, `Store.enroll` — the sections;
* `Store.allow` — the decision on an identifier;
* `Store.reclaim` — drops the visitors that were idle too long;
* `Store.visit`, `Store.forget` — what a pass and a clearing do to one identifier.
-/

namespace Admission

/-- The bucket of an identifier, and when the identifier was last seen. -/
structure Visitor where
  bucket : Bucket
  lastSeen : Instant

namespace Visitor

/-- A visitor first seen at an instant, with a full bucket. -/
def arriving (a : Allowance) (now : Instant) : Visitor :=
  ⟨.full a now, now⟩

/-- Takes a token if there is one; the visitor has been seen either way. -/
def allow (v : Visitor) (now : Instant) : Bool × Visitor :=
  let (allowed, bucket) := v.bucket.allow now
  (allowed, ⟨bucket, now⟩)

/-- Whether the visitor has been idle for longer than the period.  One seen in the future is
not. -/
def isStale (v : Visitor) (now : Instant) (expiresIn : Duration) : Bool :=
  decide ((expiresIn.nanoseconds : Int) < v.lastSeen.nanosecondsTo now)

end Visitor

/-- The limits of a store and the visitors it tracks. -/
structure Store where
  limits : Limits
  visitors : Roster Visitor

/-- The answer to an identifier, what is left afterwards, and what was logged. -/
structure Reply (σ : Type) where
  answer : Except StoreError Bool
  state : σ
  events : List Event

namespace Store

/-- A store that tracks nobody. -/
def empty (limits : Limits) : Store :=
  ⟨limits, .empty⟩

/-- How many identifiers are tracked. -/
def size (s : Store) : Nat :=
  s.visitors.size

/-- The visitor of an identifier. -/
def visitor? (s : Store) (id : String) : Option Visitor :=
  s.visitors.lookup id

/-- Whether an identifier is tracked. -/
def contains (s : Store) (id : String) : Bool :=
  (s.visitor? id).isSome

/-- The first section: charges an identifier that is tracked. -/
def charge? (s : Store) (id : String) (now : Instant) : Option (Bool × Store) :=
  (s.visitor? id).map fun v =>
    ((v.allow now).1, { s with visitors := s.visitors.put id (v.allow now).2 })

/-- The second section: the cap that a new identifier would exceed. -/
def refusal? (s : Store) : Option Nat :=
  s.limits.maxVisitors.filter fun cap => decide (cap ≤ s.size)

/-- The third section: charges an identifier, which is tracked with a full bucket if it is not
tracked yet.  Says whether it was new, and whether it had a token. -/
def enroll (s : Store) (id : String) (now : Instant) : Bool × Bool × Store :=
  let v := (s.visitor? id).getD (.arriving s.limits.allowance now)
  (!s.contains id, (v.allow now).1, { s with visitors := s.visitors.put id (v.allow now).2 })

/-- The reply of the second section to an identifier that the cap keeps out. -/
def turnedAway (s : Store) (id : String) (limit : Nat) : Reply Store :=
  ⟨.error (.capacityExceeded limit), s, [.registryFull id limit]⟩

/-- The reply of the third section. -/
def enrolled (s : Store) (id : String) (now : Instant) : Reply Store :=
  let (created, allowed, s) := s.enroll id now
  ⟨.ok allowed, s,
    (if created then [.visitorTracked id] else []) ++ [.limitChecked id allowed]⟩

/-- The decision on an identifier. -/
def allow (s : Store) (id : String) (now : Instant) : Reply Store :=
  match s.charge? id now with
  | some (allowed, s) => ⟨.ok allowed, s, [.limitChecked id allowed]⟩
  | none =>
    match s.refusal? with
    | some limit => s.turnedAway id limit
    | none => s.enrolled id now

/-- So many decisions on one identifier, and how many of them admitted it. -/
def allowMany (s : Store) (id : String) (now : Instant) : Nat → Nat × Store
  | 0 => (0, s)
  | n + 1 =>
    let reply := s.allow id now
    let (admitted, s) := reply.state.allowMany id now n
    ((match reply.answer with
      | .ok true => admitted + 1
      | _ => admitted), s)

/-- The store without the visitors that were idle too long. -/
def withoutStale (s : Store) (now : Instant) : Store :=
  { s with visitors := s.visitors.filter fun v => !v.isStale now s.limits.expiresIn }

/-- Drops the visitors that were idle too long, counts them, and logs the count. -/
def reclaim (s : Store) (now : Instant) : Nat × Store × List Event :=
  let kept := s.withoutStale now
  let removed := s.size - kept.size
  (removed, kept, [.visitorsReclaimed removed kept.size])

/-- The store without any visitor. -/
def clear (s : Store) : Store :=
  { s with visitors := .empty }

/-- The store without the visitor of one identifier. -/
def forget (s : Store) (id : String) : Store :=
  { s with visitors := s.visitors.remove id }

/-- What a pass that read the clock earlier does when it comes to an identifier: it drops the
visitor if that was idle too long at the reading. -/
def visit (s : Store) (id : String) (reading : Instant) : Store :=
  if (s.visitor? id).any fun v => v.isStale reading s.limits.expiresIn then s.forget id else s

end Store
end Admission
