import Admission.Binary64.Basic

/-!
# Words of 64 bits

The interchange form of a value: a sign bit, eleven bits of biased exponent and 52 bits of
fraction.  Every word is read; all words that are not a number read as the same value, which is
written with the sign clear and the top fraction bit set.
-/

namespace Admission.Binary64

/-- The value of a word. -/
def ofBits (word : UInt64) : Binary64 :=
  let negative := word.toNat / 9223372036854775808 % 2 = 1
  let biased := word.toNat / 4503599627370496 % 2048
  let fraction := word.toNat % 4503599627370496
  if biased = 2047 then
    if fraction = 0 then .infinite negative else .nan
  else if biased = 0 then
    ofScaled negative fraction (-1074)
  else
    ofScaled negative (4503599627370496 + fraction) (biased - 1075)

/-- The biased exponent and fraction of a canonical form, as one number. -/
def Finite.unsignedBits (x : Finite) : Nat :=
  if x.mantissa < 4503599627370496 then x.mantissa
  else (x.exponent + 1075).toNat * 4503599627370496 + (x.mantissa - 4503599627370496)

/-- The word of a value. -/
def toBits : Binary64 → UInt64
  | .nan => 0x7ff8000000000000
  | .infinite negative => if negative then 0xfff0000000000000 else 0x7ff0000000000000
  | .finite x =>
    UInt64.ofNat ((if x.negative then 9223372036854775808 else 0) + x.unsignedBits)

end Admission.Binary64
