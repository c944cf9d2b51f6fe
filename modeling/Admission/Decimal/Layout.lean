import Admission.Decimal.Shortest

/-!
# The text of a floating point value

A layout says which values are written positionally and whether a whole number keeps a point.
`plain` never uses an exponent and writes whole numbers bare; `logged` keeps a point and turns to
an exponent below `1e-4` and from `1e16` on.
-/

namespace Admission.Decimal

open Binary64

/-- How the digits of a number are laid out. -/
structure Layout where
  /-- The orders of magnitude written without an exponent. -/
  positional : Int → Bool
  /-- Whether a whole number written positionally ends in a point and a zero. -/
  keepsPoint : Bool

/-- Never an exponent; whole numbers bare. -/
def plain : Layout :=
  ⟨fun _ => true, false⟩

/-- Positional from `1e-4` up to, but not including, `1e16`; whole numbers end in `.0`. -/
def logged : Layout :=
  ⟨fun order => -4 ≤ order ∧ order < 16, true⟩

/-- The digits without their trailing zeros. -/
def trimZeros (digits : List Char) : List Char :=
  (digits.reverse.dropWhile (· == '0')).reverse

/-- Digits with the point after the first `whole` of them, padded with zeros on either side. -/
def Layout.writePositional (layout : Layout) (digits : List Char) (whole : Int) : String :=
  if whole ≤ 0 then
    "0." ++ String.ofList (List.replicate (-whole).toNat '0' ++ digits)
  else
    let count := whole.toNat
    let left := digits.take count ++ List.replicate (count - digits.length) '0'
    let right := digits.drop count
    if right.isEmpty then
      String.ofList left ++ if layout.keepsPoint then ".0" else ""
    else
      String.ofList left ++ "." ++ String.ofList right

/-- The first digit, a point if more follow, and the power of ten. -/
def writeScientific (digits : List Char) (order : Int) : String :=
  let rest := digits.drop 1
  String.ofList (digits.take 1) ++ (if rest.isEmpty then "" else "." ++ String.ofList rest)
    ++ "e" ++ toString order

/-- The text of a magnitude. -/
def Layout.writeMagnitude (layout : Layout) (x : Finite) : String :=
  if x.mantissa = 0 then
    if layout.keepsPoint then "0.0" else "0"
  else
    let chosen := shortest x
    let all := Nat.toDigits 10 chosen.digits
    let whole : Int := chosen.exponent + all.length
    let digits := trimZeros all
    if layout.positional (whole - 1) then layout.writePositional digits whole
    else writeScientific digits (whole - 1)

/-- The text of a value.  A negative zero keeps its sign. -/
def Layout.write (layout : Layout) : Binary64 → String
  | .nan => "NaN"
  | .infinite negative => if negative then "-inf" else "inf"
  | .finite x => (if x.negative then "-" else "") ++ layout.writeMagnitude x

end Admission.Decimal
