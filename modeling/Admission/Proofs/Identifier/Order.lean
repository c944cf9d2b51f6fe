import Admission.Identifier

/-!
# The sources in their order

A request may tell its client's address in four places: in two headers, and in two addresses that a
server may have recorded.  They are asked in turn, the first that has an answer decides, and nothing
but the answers counts.  So a source that has no answer might as well be absent.

* `Source`, `Source.answer?` — the sources, and the answers that are had from them;
* `findSome?_order_eq_some_iff`, `realIp_eq_ok_iff` — the first answer decides;
* `Source.removed`, `Source.answer?_removed_other` — a source is taken away without touching the
  others;
* `Source.realIp_removed` — a source without an answer may be taken away.
-/

namespace Admission

/-- A request without the lines of one header; the name is in lower case. -/
def Request.without (r : Request) (name : String) : Request :=
  { r with headers := r.headers.filter fun h => Header.lowerName h.name != name }

theorem Request.header?_without_self (r : Request) (name : String) :
    (r.without name).header? name = none := by
  simp [header?, without]

theorem Request.header?_without_other (r : Request) {name other : String} (h : other ≠ name) :
    (r.without name).header? other = r.header? other := by
  have hkept : (fun line : Header => decide ((Header.lowerName line.name != name) = true ∧
      (Header.lowerName line.name == other) = true)) =
      fun line => Header.lowerName line.name == other := by
    funext line
    by_cases hline : Header.lowerName line.name = other <;> simp [hline, h]
  rw [header?, without, List.find?_filter, hkept, header?]

namespace Identifier

variable {r t : Request} {id : String}

/-- Where a client's address may be told: two headers, and two addresses that a server may have
recorded. -/
inductive Source where
  | forwarded
  | realIp
  | connection
  | peer
deriving DecidableEq

namespace Source

/-- The place of a source among the others, the most trusted first. -/
def rank : Source → Nat
  | .forwarded => 0
  | .realIp => 1
  | .connection => 2
  | .peer => 3

/-- The header whose first line a source is, if it is one. -/
def header? : Source → Option String
  | .forwarded => some "x-forwarded-for"
  | .realIp => some "x-real-ip"
  | .connection | .peer => none

/-- The answer that is had from a source. -/
def answer? : Source → Request → Option String
  | .forwarded => forwarded?
  | .realIp => realIpHeader?
  | .connection => fun r => r.connection.map fun a => a.ip.write
  | .peer => fun r => r.peer.map fun a => a.ip.write

end Source

/-! ## The first answer -/

/-- The sources in the order in which they are asked. -/
def order : List Source :=
  [.forwarded, .realIp, .connection, .peer]

theorem mem_order (s : Source) : s ∈ order := by
  cases s <;> decide

/-- The first answer is that of a source whose betters have none. -/
theorem findSome?_order_eq_some_iff : order.findSome? (fun s => s.answer? r) = some id ↔
    ∃ s : Source, s.answer? r = some id ∧ ∀ other : Source, other.rank < s.rank →
      other.answer? r = none := by
  have hsorted : order.Pairwise fun first second => first.rank < second.rank := by decide
  constructor
  · intro h
    obtain ⟨before, s, after, hsplit, hs, hnone⟩ := List.findSome?_eq_some_iff.1 h
    refine ⟨s, hs, fun other hrank => ?_⟩
    have hmem := mem_order other
    rw [hsplit] at hsorted hmem
    have hafter := (List.pairwise_cons.1 (List.pairwise_append.1 hsorted).2.1).1
    rcases List.mem_append.1 hmem with hbefore | hrest
    · exact hnone other hbefore
    · rcases List.mem_cons.1 hrest with rfl | hmem
      · omega
      · have := hafter other hmem
        omega
  · rintro ⟨s, hs, hnone⟩
    obtain ⟨before, after, hsplit⟩ := List.append_of_mem (mem_order s)
    rw [hsplit] at hsorted
    refine List.findSome?_eq_some_iff.2 ⟨before, s, after, hsplit, hs, fun other hother => ?_⟩
    exact hnone other ((List.pairwise_append.1 hsorted).2.2 other hother s (List.mem_cons_self ..))

theorem findSome?_sources_eq (r : Request) :
    sources.findSome? (fun source => source r) = order.findSome? fun s => s.answer? r := by
  have hsources : sources = order.map Source.answer? := rfl
  rw [hsources, List.findSome?_map]
  rfl

/-- **The first answer is the identifier.** -/
theorem realIp_eq_ok_iff : realIp r = .ok id ↔ ∃ s : Source, s.answer? r = some id ∧
    ∀ other : Source, other.rank < s.rank → other.answer? r = none := by
  rw [realIp, findSome?_sources_eq, ← findSome?_order_eq_some_iff]
  split
  · next other hother => rw [hother, Except.ok.injEq, Option.some.injEq]
  · next hnone =>
    rw [hnone]
    constructor <;> intro h <;> cases h

/-- **Without an answer there is no identifier**, and the error says so. -/
theorem realIp_eq_error_iff {e : IdentifierError} :
    realIp r = .error e ↔ e = .missing ∧ ∀ s : Source, s.answer? r = none := by
  have hnone : (∀ s : Source, s.answer? r = none) ↔
      order.findSome? (fun s => s.answer? r) = none := by
    simp only [List.findSome?_eq_none_iff, mem_order, true_implies]
  rw [hnone, realIp, findSome?_sources_eq]
  cases order.findSome? fun s => s.answer? r with
  | some id => simp
  | none => simp [eq_comm]

/-- The identifier depends on nothing but the answers. -/
theorem realIp_congr_answers (h : ∀ s : Source, s.answer? r = s.answer? t) :
    realIp r = realIp t := by
  rw [realIp, realIp, findSome?_sources_eq, findSome?_sources_eq, funext h]

/-! ## A source that is taken away -/

namespace Source

/-- The request without what it tells in one place. -/
def removed : Source → Request → Request
  | .forwarded, r => r.without "x-forwarded-for"
  | .realIp, r => r.without "x-real-ip"
  | .connection, r => { r with connection := none }
  | .peer, r => { r with peer := none }

theorem answer?_removed_self (s : Source) (r : Request) : s.answer? (s.removed r) = none := by
  cases s with
  | forwarded | realIp =>
    simp only [removed, answer?, forwarded?, realIpHeader?, Request.header?_without_self,
      Option.bind_none]
  | connection | peer => rfl

theorem answer?_removed_other {s other : Source} (h : other ≠ s) (r : Request) :
    other.answer? (s.removed r) = other.answer? r := by
  cases s with
  | forwarded =>
    have hheader := r.header?_without_other (by decide : "x-real-ip" ≠ "x-forwarded-for")
    cases other with
    | forwarded => exact absurd rfl h
    | realIp => rw [removed, answer?, realIpHeader?, hheader, realIpHeader?]
    | connection | peer => rfl
  | realIp =>
    have hheader := r.header?_without_other (by decide : "x-forwarded-for" ≠ "x-real-ip")
    cases other with
    | forwarded => rw [removed, answer?, forwarded?, hheader, forwarded?]
    | realIp => exact absurd rfl h
    | connection | peer => rfl
  | connection =>
    cases other with
    | forwarded | realIp | peer => rfl
    | connection => exact absurd rfl h
  | peer =>
    cases other with
    | forwarded | realIp | connection => rfl
    | peer => exact absurd rfl h

/-- **A source that has no answer might as well be absent.** -/
theorem realIp_removed (s : Source) (h : s.answer? r = none) :
    Identifier.realIp (s.removed r) = Identifier.realIp r := by
  apply realIp_congr_answers
  intro other
  by_cases hother : other = s
  · rw [hother, s.answer?_removed_self, h]
  · exact answer?_removed_other hother r

end Source

end Identifier
end Admission
