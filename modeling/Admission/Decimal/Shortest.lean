import Admission.Binary64.Basic

/-!
# Shortest decimal digits

The digits written for a finite value: as few as still read back as that value, and of those the
nearest.  The search walks the decimal grids from coarse to fine and looks only at the value's
two neighbours on each, since a grid with a point inside the interval of numbers that round to
the value has one of them there.
-/

namespace Admission.Decimal

open Binary64

/-- Digits and the power of ten of the last digit. -/
structure Digits where
  digits : Nat
  exponent : Int
deriving DecidableEq

/-- The number the digits stand for. -/
def Digits.value (d : Digits) : Rat :=
  (d.digits : Rat) * (10 : Rat) ^ d.exponent

/-- The number of decimal digits of a positive number. -/
def digitCount (n : Nat) : Nat :=
  (Nat.toDigits 10 n).length

/-- The greatest `k` with `10 ^ k ≤ q`, for a positive `q`. -/
def decimalOrder (q : Rat) : Int :=
  let upper : Int := (digitCount q.num.natAbs : Int) - (digitCount q.den : Int)
  if (10 : Rat) ^ upper ≤ q then upper else upper - 1

/-- Whether a magnitude rounds to the magnitude of `x`: it lies between the midpoints to the
neighbouring values, which count when the mantissa is even. -/
def readsBack (x : Finite) (q : Rat) : Bool :=
  let unit := (2 : Rat) ^ x.exponent
  let above := x.magnitude + unit / 2
  let below :=
    if x.mantissa = 4503599627370496 ∧ x.exponent ≠ -1074 then x.magnitude - unit / 4
    else x.magnitude - unit / 2
  if x.mantissa % 2 = 0 then below ≤ q ∧ q ≤ above else below < q ∧ q < above

/-- The point of the grid `10 ^ exponent` that reads back as `x`, if one of the two neighbours
does; the nearer of two, and the greater when they are equally near. -/
def onGrid? (x : Finite) (exponent : Int) : Option Digits :=
  let scaled := x.magnitude / (10 : Rat) ^ exponent
  let below : Digits := ⟨scaled.floor.toNat, exponent⟩
  let above : Digits := ⟨scaled.floor.toNat + 1, exponent⟩
  match readsBack x below.value, readsBack x above.value with
  | true, true =>
    some (if x.magnitude - below.value < above.value - x.magnitude then below else above)
  | true, false => some below
  | false, true => some above
  | false, false => none

/-- The shortest digits that read back as a positive finite value.  Seventeen digits always
suffice. -/
def shortest (x : Finite) : Digits :=
  let top := decimalOrder x.magnitude
  ((List.range 17).findSome? fun extra : Nat => onGrid? x (top - extra)).getD ⟨0, 0⟩

end Admission.Decimal
