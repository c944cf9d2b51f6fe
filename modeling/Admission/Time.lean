import Admission.Binary64.Basic

/-!
# Durations and instants

A duration is a whole number of nanoseconds.  An instant counts nanoseconds from the start of
1970, within the years that the calendar covers; time enters the library only as an argument.

* `Duration.toSeconds` — seconds as a floating point value: whole seconds and the fraction are
  rounded apart and added;
* `Duration.ofSeconds?` — the nearest whole number of nanoseconds, a half going to the even
  one; none for what is negative or beyond 64 bits of seconds;
* `Instant.advance?` — none where the calendar ends.
-/

namespace Admission

/-- A length of time in nanoseconds. -/
structure Duration where
  nanoseconds : Nat
deriving DecidableEq

namespace Duration

/-- No time at all. -/
def zero : Duration :=
  ⟨0⟩

/-- A whole number of seconds. -/
def ofSeconds (seconds : Nat) : Duration :=
  ⟨seconds * 1000000000⟩

/-- The whole seconds of a duration. -/
def seconds (d : Duration) : Nat :=
  d.nanoseconds / 1000000000

/-- The nanoseconds past the last whole second. -/
def subsecond (d : Duration) : Nat :=
  d.nanoseconds % 1000000000

/-- Seconds as a floating point value. -/
def toSeconds (d : Duration) : Binary64 :=
  .ofNat d.seconds + .ofNat d.subsecond / .ofNat 1000000000

/-- The duration nearest to a number of seconds. -/
def ofSeconds? : Binary64 → Option Duration
  | .finite x =>
    if x.value < 0 then none
    else if 18446744073709551616 ≤ x.value then none
    else some ⟨(Binary64.roundHalfEven (x.value * 1000000000)).toNat⟩
  | _ => none

instance : LE Duration := ⟨fun a b => a.nanoseconds ≤ b.nanoseconds⟩
instance : LT Duration := ⟨fun a b => a.nanoseconds < b.nanoseconds⟩

instance (a b : Duration) : Decidable (a ≤ b) :=
  inferInstanceAs (Decidable (a.nanoseconds ≤ b.nanoseconds))

instance (a b : Duration) : Decidable (a < b) :=
  inferInstanceAs (Decidable (a.nanoseconds < b.nanoseconds))

/-- Seconds, a point, and nine digits of nanoseconds. -/
def write (d : Duration) : String :=
  let digits := Nat.toDigits 10 d.subsecond
  toString d.seconds ++ "."
    ++ String.ofList (List.replicate (9 - digits.length) '0' ++ digits)

end Duration

/-- A moment, in nanoseconds from the start of 1970; it lies in the years that the calendar
covers.  The calendar type can also hold readings within a leap second, whose nanosecond part is
`10 ^ 9` or more; those are left out, and the system clock yields none of them. -/
structure Instant where
  sinceEpoch : Int
  covered : -8334601228800000000000 ≤ sinceEpoch ∧ sinceEpoch ≤ 8210266876799999999999
deriving DecidableEq

namespace Instant

/-- The instant so many nanoseconds from the start of 1970, if the calendar covers it. -/
def ofNanoseconds? (sinceEpoch : Int) : Option Instant :=
  if h : -8334601228800000000000 ≤ sinceEpoch ∧ sinceEpoch ≤ 8210266876799999999999 then
    some ⟨sinceEpoch, h⟩
  else none

/-- The start of 1970. -/
def epoch : Instant :=
  ⟨0, by decide⟩

/-- Nanoseconds from one instant to another; negative when the second is the earlier. -/
def nanosecondsTo (start stop : Instant) : Int :=
  stop.sinceEpoch - start.sinceEpoch

/-- The instant a signed number of nanoseconds away. -/
def advance? (t : Instant) (nanoseconds : Int) : Option Instant :=
  ofNanoseconds? (t.sinceEpoch + nanoseconds)

/-- Seconds from one instant to a later one; none are counted backwards.  A length within 63
bits of nanoseconds is divided by a thousand million, a longer one is cut to whole seconds. -/
def elapsedSeconds (start stop : Instant) : Binary64 :=
  let elapsed := start.nanosecondsTo stop
  if elapsed ≤ 0 then .zero false
  else if elapsed ≤ 9223372036854775807 then .ofInt elapsed / .ofNat 1000000000
  else .ofInt (elapsed / 1000000000)

end Instant
end Admission
