import Admission.Address.Reading
import Admission.Decimal.Reading

/-!
# Nodes

What a text says, once its layout is understood: scalars, sequences and mappings.  A scalar in
quotes is text; one without is read for what it looks like.

* `Scalar.ofPlain` — what a scalar without quotes looks like;
* `Node.same` — whether two nodes say the same, entries in order;
* `Node.entriesOf?` — the entries that alternating keys and values make; no key comes twice.
-/

namespace Admission.Yaml

/-- A single value.  A real number is kept as it was written. -/
inductive Scalar where
  | null
  | truth (value : Bool)
  | integer (value : Int)
  | real (written : String)
  | text (value : String)
deriving DecidableEq

/-- A document or a part of one.  What an alias stands for inside the very node that it names is
`hollow`. -/
inductive Node where
  | scalar (value : Scalar)
  | sequence (items : List Node)
  | mapping (entries : List (Node × Node))
  | hollow

namespace Scalar

/-- An integer of 64 bits with a sign. -/
def held? (z : Int) : Option Int :=
  if -9223372036854775808 ≤ z ∧ z ≤ 9223372036854775807 then some z else none

/-- The digits of a number in a base, after an optional sign. -/
def inBase? (base : Nat) (text : List Char) : Option Int :=
  let (negative, digits) := match text with
    | '-' :: rest => (true, rest)
    | '+' :: rest => (false, rest)
    | _ => (false, text)
  match digits.mapM (digitIn? base) with
  | none | some [] => none
  | some values =>
    let magnitude := values.foldl (fun n d => n * base + d) 0
    held? (if negative then -(magnitude : Int) else magnitude)

/-- An integer in one of its written forms: decimal, or after `0x` or `0o` in base 16 or 8.  A
plus sign may stand before any decimal form. -/
def integer? : List Char → Option Int
  | '0' :: 'x' :: digits => inBase? 16 digits
  | '0' :: 'o' :: digits => inBase? 8 digits
  | '+' :: number => inBase? 10 number
  | number => inBase? 10 number

/-- The words with a point for what is infinite or not a number. -/
def specialReals : List String :=
  [".inf", ".Inf", ".INF", "+.inf", "+.Inf", "+.INF", "-.inf", "-.Inf", "-.INF", ".nan", ".NAN"]

/-- What a scalar without quotes looks like. -/
def ofPlain (text : String) : Scalar :=
  match integer? text.toList with
  | some z => .integer z
  | none =>
    if ["~", "null"].contains text then .null
    else if text = "true" then .truth true
    else if text = "false" then .truth false
    else if specialReals.contains text || (Decimal.readBinary64? text.toList).isSome then
      .real text
    else .text text

end Scalar

namespace Node

mutual

/-- Whether two nodes say the same.  Real numbers are compared as they are written, and mappings
with their entries in order. -/
def same : Node → Node → Bool
  | .scalar s, other =>
    match other with
    | .scalar t => s == t
    | _ => false
  | .sequence items, other =>
    match other with
    | .sequence others => sameItems items others
    | _ => false
  | .mapping entries, other =>
    match other with
    | .mapping others => sameEntries entries others
    | _ => false
  | .hollow, other =>
    match other with
    | .hollow => true
    | _ => false
termination_by structural node => node

/-- Whether two lists of nodes say the same. -/
def sameItems : List Node → List Node → Bool
  | [], others => others.isEmpty
  | n :: rest, others =>
    match others with
    | m :: others => same n m && sameItems rest others
    | [] => false
termination_by structural nodes => nodes

/-- Whether two lists of entries say the same. -/
def sameEntries : List (Node × Node) → List (Node × Node) → Bool
  | [], others => others.isEmpty
  | (k, v) :: rest, others =>
    match others with
    | (l, w) :: others => same k l && same v w && sameEntries rest others
    | [] => false
termination_by structural entries => entries

end

/-- The entries of a mapping after earlier ones, from its keys and values in turn; `key` is one
that waits for its value.  A hollow node is no key: what follows it is one.  A key without a value
is dropped, and none may come twice. -/
def entriesOf? (key : Option Node) (earlier : List (Node × Node)) :
    List Node → Option (List (Node × Node))
  | [] => some earlier.reverse
  | n :: rest =>
    match key, n with
    | none, .hollow => entriesOf? none earlier rest
    | none, n => entriesOf? (some n) earlier rest
    | some k, n =>
      if earlier.any fun entry => entry.1.same k then none
      else entriesOf? none ((k, n) :: earlier) rest

end Node
end Admission.Yaml
