import Admission.Http
import Admission.Settings.Value

/-!
# Reading single values

A setting takes more than its own type: numbers may be written as text, words stand for one and
zero, and real numbers are rounded to whole ones.  What cannot be taken is refused with its key
and its origin.

* `Located.real`, `Located.natural`, `Located.burst`, `Located.text` — the readers;
* `Located.part` — the parts of a table, or of a sequence in a table's place.
-/

namespace Admission

/-- A value and the key it stands under. -/
structure Located where
  key : String
  value : Value

namespace Located

/-- The refusal of a value that had to be something else. -/
def refuse (l : Located) (wanted : Wanted) : SettingsError :=
  .wrongType l.value.found wanted l.key l.value.origin

/-- The word for one or zero that a text is, in any case. -/
def switch? (text : String) : Option Bool :=
  let lower := Header.lowerName text
  if ["true", "on", "yes"].contains lower then some true
  else if ["false", "off", "no"].contains lower then some false
  else none

/-- The greatest number of 64 bits without a sign. -/
def greatest64 : Nat :=
  18446744073709551615

/-- A real number. -/
def real (l : Located) : Except SettingsError Binary64 :=
  match l.value with
  | .leaf _ (.real x) => .ok x
  | .leaf _ (.integer z) => .ok (.ofInt z)
  | .leaf _ (.truth b) => .ok (.ofNat b.toNat)
  | .leaf _ (.text s) =>
    match switch? s with
    | some b => .ok (.ofNat b.toNat)
    | none =>
      match Decimal.readBinary64? s.toList with
      | some x => .ok x
      | none => .error (l.refuse .real)
  | _ => .error (l.refuse .real)

/-- A natural number of 64 bits.  A real number is rounded to the nearest one, half away from
zero, and held to the range; an integer must lie in it. -/
def natural (l : Located) : Except SettingsError Nat :=
  match l.value with
  | .leaf _ (.real x) => .ok (x.toBounded greatest64 Binary64.roundHalfAway)
  | .leaf _ (.integer z) => if 0 ≤ z then .ok z.toNat else .error (l.refuse .unsigned64)
  | .leaf _ (.truth b) => .ok b.toNat
  | .leaf _ (.text s) =>
    match switch? s with
    | some b => .ok b.toNat
    | none =>
      match Decimal.readNat? greatest64 s.toList with
      | some n => .ok n
      | none => .error (l.refuse .integer)
  | _ => .error (l.refuse .integer)

/-- A burst: a natural number of 32 bits. -/
def burst (l : Located) : Except SettingsError UInt32 :=
  match l.natural with
  | .error e => .error e
  | .ok n =>
    if n < 4294967296 then .ok (UInt32.ofNat n)
    else .error (.wrongType (.natural n) .unsigned32 l.key none)

/-- A number that may be left out. -/
def cap (l : Located) : Except SettingsError (Option Nat) :=
  match l.value with
  | .leaf _ .null => .ok none
  | _ => l.natural.map some

/-- A text; numbers and truth values are written out. -/
def text (l : Located) : Except SettingsError String :=
  match l.value with
  | .leaf _ (.text s) => .ok s
  | .leaf _ (.truth b) => .ok (toString b)
  | .leaf _ (.integer z) => .ok (toString z)
  | .leaf _ (.real x) => .ok (Decimal.plain.write x)
  | _ => .error (l.refuse .text)

/-- A listening address. -/
def address (l : Located) : Except SettingsError SocketAddress :=
  match l.text with
  | .error e => .error e
  | .ok s =>
    match SocketAddress.ofText? s with
    | some a => .ok a
    | none => .error .address

/-- The part of a table under a name, or in its place of a sequence. -/
def part (l : Located) (name : String) (place : Nat) : Option Located :=
  match l.value with
  | .table _ entries => (Value.lookup name entries).map fun v => ⟨l.key ++ "." ++ name, v⟩
  | .sequence _ items => items[place]?.map fun v => ⟨l.key ++ "[" ++ toString place ++ "]", v⟩
  | .leaf .. => none

/-- What has no parts is refused in a table's place. -/
def asTable (l : Located) (table : String) : Except SettingsError Unit :=
  match l.value with
  | .leaf .. => .error (.notTable l.value.found table)
  | _ => .ok ()

end Located

/-- What a reader makes of a value that may be left out. -/
def readOr {α : Type} (default_ : α) (read : Located → Except SettingsError α) :
    Option Located → Except SettingsError α
  | some l => read l
  | none => .ok default_

end Admission
