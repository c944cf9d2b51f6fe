/-!
# Runs of characters

A set of characters is given by where its runs of code points start and end, in rising order.
-/

namespace Admission.Text

/-- Whether a character lies in a run: an odd number of boundaries lie at or below it. -/
def inRuns (boundaries : Array Nat) (c : Char) : Bool :=
  boundaries.foldl (fun inside boundary => inside != decide (boundary ≤ c.toNat)) false

end Admission.Text
