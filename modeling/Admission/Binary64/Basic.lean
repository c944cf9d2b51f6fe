/-!
# Binary floating point with 53 bits of mantissa

A value is not a number, a signed infinity, or a signed multiple of a power of two written in
canonical form: two values are equal exactly when they are the same number with the same sign.

Every operation forms its exact rational result and rounds it once:

* `Finite.value` — the rational number a finite value stands for;
* `roundHalfEven` — the nearest integer, a half going to the even neighbour;
* `ofMagnitude` — the nearest value to a magnitude, of the given sign, infinite past the range;
* `compare?` — the order, undefined on what is not a number.
-/

namespace Admission

/-- The mantissas and exponents of the canonical form: below `2 ^ 53`, and at least `2 ^ 52`
except at the least exponent. -/
def IsCanonical (mantissa : Nat) (exponent : Int) : Prop :=
  mantissa < 9007199254740992 ∧ -1074 ≤ exponent ∧ exponent ≤ 971 ∧
    (exponent = -1074 ∨ 4503599627370496 ≤ mantissa)

instance (mantissa : Nat) (exponent : Int) : Decidable (IsCanonical mantissa exponent) := by
  unfold IsCanonical
  infer_instance

namespace Binary64

/-- A finite value: a sign and a mantissa times a power of two.  Zero keeps its sign. -/
structure Finite where
  negative : Bool
  mantissa : Nat
  exponent : Int
  canonical : IsCanonical mantissa exponent
deriving DecidableEq

/-- The absolute value as a rational number. -/
def Finite.magnitude (x : Finite) : Rat :=
  (x.mantissa : Rat) * (2 : Rat) ^ x.exponent

/-- The rational number that a finite value stands for; both zeros stand for `0`. -/
def Finite.value (x : Finite) : Rat :=
  if x.negative then -x.magnitude else x.magnitude

end Binary64

/-- A binary floating point value of 64 bits. -/
inductive Binary64 where
  | nan
  | infinite (negative : Bool)
  | finite (x : Binary64.Finite)
deriving DecidableEq

namespace Binary64

/-- Zero of the given sign. -/
def zero (negative : Bool) : Binary64 :=
  .finite ⟨negative, 0, -1074, by decide⟩

/-- Infinities and what is not a number are not finite. -/
def isFinite : Binary64 → Bool
  | .finite _ => true
  | _ => false

/-- Either zero. -/
def isZero : Binary64 → Bool
  | .finite x => x.mantissa == 0
  | _ => false

/-! ## Rounding -/

/-- The nearest integer; a half goes to the even neighbour. -/
def roundHalfEven (q : Rat) : Int :=
  let below := q.floor
  let rest := q - below
  if rest < 1 / 2 then below
  else if 1 / 2 < rest then below + 1
  else if below % 2 = 0 then below
  else below + 1

/-- The greatest `k` with `2 ^ k ≤ q`, for a positive `q`: the lengths of numerator and
denominator leave two candidates. -/
def binaryOrder (q : Rat) : Int :=
  let upper : Int := (Nat.log2 q.num.natAbs : Int) - (Nat.log2 q.den : Int)
  if (2 : Rat) ^ upper ≤ q then upper else upper - 1

/-- The exponent of the last mantissa bit of the values around a positive `q`. -/
def gridExponent (q : Rat) : Int :=
  max (-1074) (binaryOrder q - 52)

/-- The value of the given scaled mantissa: a mantissa that rounded up to `2 ^ 53` is carried
into the exponent, and what has no canonical form is past the range. -/
def ofScaled (negative : Bool) (mantissa : Nat) (exponent : Int) : Binary64 :=
  if h : IsCanonical mantissa exponent then
    .finite ⟨negative, mantissa, exponent, h⟩
  else if h : IsCanonical (mantissa / 2) (exponent + 1) then
    .finite ⟨negative, mantissa / 2, exponent + 1, h⟩
  else
    .infinite negative

/-- The value nearest to a magnitude, with the given sign. -/
def ofMagnitude (negative : Bool) (magnitude : Rat) : Binary64 :=
  if magnitude = 0 then zero negative
  else
    let exponent := gridExponent magnitude
    ofScaled negative (roundHalfEven (magnitude / (2 : Rat) ^ exponent)).toNat exponent

/-- The value nearest to a rational number; `0` gives the positive zero. -/
def ofRat (q : Rat) : Binary64 :=
  if q < 0 then ofMagnitude true (-q) else ofMagnitude false q

/-- The value nearest to a natural number. -/
def ofNat (n : Nat) : Binary64 :=
  ofRat n

/-- The value nearest to an integer. -/
def ofInt (z : Int) : Binary64 :=
  ofRat z

/-! ## Arithmetic -/

/-- The same magnitude with the other sign. -/
def neg : Binary64 → Binary64
  | .nan => .nan
  | .infinite negative => .infinite !negative
  | .finite x => .finite { x with negative := !x.negative }

/-- The sum.  A sum of zero is negative only when both terms are negative zeros. -/
def add : Binary64 → Binary64 → Binary64
  | .finite x, .finite y =>
    if x.value + y.value = 0 then zero (x.negative && y.negative)
    else ofRat (x.value + y.value)
  | .nan, _ => .nan
  | _, .nan => .nan
  | .infinite s, .infinite t => if s = t then .infinite s else .nan
  | .infinite s, .finite _ => .infinite s
  | .finite _, .infinite t => .infinite t

/-- The difference is the sum with the second term's sign changed. -/
def sub (x y : Binary64) : Binary64 :=
  add x (neg y)

/-- The product; its sign is negative when the signs of the factors differ. -/
def mul : Binary64 → Binary64 → Binary64
  | .finite x, .finite y => ofMagnitude (x.negative != y.negative) (x.magnitude * y.magnitude)
  | .nan, _ => .nan
  | _, .nan => .nan
  | .infinite s, .infinite t => .infinite (s != t)
  | .infinite s, .finite y => if y.mantissa = 0 then .nan else .infinite (s != y.negative)
  | .finite x, .infinite t => if x.mantissa = 0 then .nan else .infinite (x.negative != t)

/-- The quotient; a quotient of two zeros or of two infinities is not a number, and anything
else over zero is infinite. -/
def div : Binary64 → Binary64 → Binary64
  | .finite x, .finite y =>
    if y.mantissa = 0 then
      if x.mantissa = 0 then .nan else .infinite (x.negative != y.negative)
    else ofMagnitude (x.negative != y.negative) (x.magnitude / y.magnitude)
  | .nan, _ => .nan
  | _, .nan => .nan
  | .infinite _, .infinite _ => .nan
  | .infinite s, .finite y => .infinite (s != y.negative)
  | .finite x, .infinite t => zero (x.negative != t)

instance : Neg Binary64 := ⟨neg⟩
instance : Add Binary64 := ⟨add⟩
instance : Sub Binary64 := ⟨sub⟩
instance : Mul Binary64 := ⟨mul⟩
instance : Div Binary64 := ⟨div⟩

/-! ## Order -/

/-- The order of two values; there is none when either is not a number.  The two zeros are
equal. -/
def compare? : Binary64 → Binary64 → Option Ordering
  | .finite x, .finite y =>
    some (if x.value < y.value then .lt else if x.value = y.value then .eq else .gt)
  | .nan, _ => none
  | _, .nan => none
  | .infinite s, .infinite t => some (if s = t then .eq else if s then .lt else .gt)
  | .infinite s, .finite _ => some (if s then .lt else .gt)
  | .finite _, .infinite t => some (if t then .gt else .lt)

instance : LT Binary64 := ⟨fun x y => compare? x y = some .lt⟩
instance : LE Binary64 := ⟨fun x y => compare? x y = some .lt ∨ compare? x y = some .eq⟩

instance (x y : Binary64) : Decidable (x < y) :=
  inferInstanceAs (Decidable (compare? x y = some .lt))

instance (x y : Binary64) : Decidable (x ≤ y) :=
  inferInstanceAs (Decidable (compare? x y = some .lt ∨ compare? x y = some .eq))

/-- The value held between two bounds; what is not a number stays so. -/
def clamp (x lower upper : Binary64) : Binary64 :=
  if x < lower then lower else if upper < x then upper else x

/-! ## Whole numbers -/

/-- An integer held to the range from `0` to `bound`. -/
def holdTo (bound : Nat) (z : Int) : Nat :=
  min z.toNat bound

/-- The whole number a rounding rule assigns to a value, held to the range from `0` to `bound`;
`0` for what is not a number. -/
def toBounded (bound : Nat) (rule : Rat → Int) : Binary64 → Nat
  | .nan => 0
  | .infinite negative => if negative then 0 else bound
  | .finite x => holdTo bound (rule x.value)

/-- The nearest integer; a half goes away from zero. -/
def roundHalfAway (q : Rat) : Int :=
  if q < 0 then -(-q + 1 / 2).floor else (q + 1 / 2).floor

end Binary64
end Admission
