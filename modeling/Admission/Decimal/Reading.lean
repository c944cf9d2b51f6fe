import Admission.Binary64.Basic

/-!
# Reading a decimal number

The written forms of a floating point value: an optional sign, then digits with at most one
point and at least one digit, then an optional power of ten; or one of the words `inf`,
`infinity` and `nan` in any case.  The number is read exactly and rounded once.
-/

namespace Admission.Decimal

/-- The number that a list of digits stands for. -/
def ofDigits (digits : List Char) : Nat :=
  digits.foldl (fun n c => n * 10 + (c.toNat - '0'.toNat)) 0

/-- An integer written as an optional sign and at least one digit, nothing else. -/
def readInt? (text : List Char) : Option Int :=
  let (negative, digits) := match text with
    | '-' :: rest => (true, rest)
    | '+' :: rest => (false, rest)
    | rest => (false, rest)
  if digits.isEmpty || !digits.all Char.isDigit then none
  else some (if negative then -(ofDigits digits : Int) else ofDigits digits)

/-- A natural number written as digits with an optional plus sign, up to a bound. -/
def readNat? (bound : Nat) (text : List Char) : Option Nat :=
  match text with
  | '-' :: _ => none
  | _ => (readInt? text).bind fun z => if z.toNat ≤ bound then some z.toNat else none

/-- The value nearest to `digits * 10 ^ exponent`.  Powers far outside the range are settled
without forming them. -/
def nearest (negative : Bool) (digits : Nat) (exponent : Int) : Binary64 :=
  if digits = 0 then .zero negative
  else
    let order : Int := exponent + (Nat.toDigits 10 digits).length
    if 400 < order then .infinite negative
    else if order < -400 then .zero negative
    else .ofMagnitude negative ((digits : Rat) * (10 : Rat) ^ exponent)

/-- The part of a number before its power of ten, and the rest. -/
def readMantissa? (text : List Char) : Option (Nat × Int × List Char) :=
  let whole := text.takeWhile Char.isDigit
  match text.dropWhile Char.isDigit with
  | '.' :: rest =>
    let fraction := rest.takeWhile Char.isDigit
    if whole.isEmpty && fraction.isEmpty then none
    else some (ofDigits (whole ++ fraction), -fraction.length, rest.dropWhile Char.isDigit)
  | rest => if whole.isEmpty then none else some (ofDigits whole, 0, rest)

/-- A magnitude: digits and an optional power of ten, or a word. -/
def readMagnitude? (negative : Bool) (text : List Char) : Option Binary64 :=
  let lower := String.ofList (text.map Char.toLower)
  if lower == "nan" then some .nan
  else if lower == "inf" || lower == "infinity" then some (.infinite negative)
  else
    match readMantissa? text with
    | none => none
    | some (digits, exponent, []) => some (nearest negative digits exponent)
    | some (digits, exponent, mark :: power) =>
      if mark == 'e' || mark == 'E' then
        (readInt? power).map fun shift => nearest negative digits (exponent + shift)
      else none

/-- A floating point value in one of its written forms. -/
def readBinary64? (text : List Char) : Option Binary64 :=
  match text with
  | '-' :: rest => readMagnitude? true rest
  | '+' :: rest => readMagnitude? false rest
  | rest => readMagnitude? false rest

end Admission.Decimal
