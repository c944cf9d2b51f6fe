import Admission.Address.Basic

/-!
# Reading an address

Readers take a prefix of the text and give the rest.  Octets have no leading zeros, groups have
one to four digits, and the two colons of version 6 stand for at least one group; the last two
groups may be written as an address of version 4.
-/

namespace Admission

/-- The value of a digit in the given base, in either case. -/
def digitIn? (base : Nat) (c : Char) : Option Nat :=
  let value :=
    if c.isDigit then c.toNat - '0'.toNat
    else if 'a' ≤ c ∧ c ≤ 'z' then c.toNat - 'a'.toNat + 10
    else if 'A' ≤ c ∧ c ≤ 'Z' then c.toNat - 'A'.toNat + 10
    else base
  if value < base then some value else none

/-- The digits that a text begins with. -/
def leadingDigits (base : Nat) (text : List Char) : List Char :=
  text.takeWhile fun c => (digitIn? base c).isSome

/-- A number below a bound, with at least one digit.  `width` is the greatest number of digits;
leading zeros may be refused. -/
def readNumber? (base bound : Nat) (width : Option Nat) (leadingZeros : Bool)
    (text : List Char) : Option (Nat × List Char) :=
  let digits := leadingDigits base text
  let value := digits.foldl (fun n c => n * base + (digitIn? base c).getD 0) 0
  if digits.isEmpty then none
  else if width.any (· < digits.length) then none
  else if !leadingZeros && 1 < digits.length && digits.head? == some '0' then none
  else if bound ≤ value then none
  else some (value, text.drop digits.length)

/-- What follows the given character. -/
def readChar? (c : Char) : List Char → Option (List Char)
  | [] => none
  | d :: rest => if d = c then some rest else none

namespace Ipv4

/-- One of the four numbers. -/
def readOctet? (text : List Char) : Option (UInt8 × List Char) :=
  (readNumber? 10 256 (some 3) false text).map fun (n, rest) => (UInt8.ofNat n, rest)

/-- An address of version 4 at the head of a text. -/
def read? (text : List Char) : Option (Ipv4 × List Char) := do
  let (a, text) ← readOctet? text
  let (b, text) ← readOctet? (← readChar? '.' text)
  let (c, text) ← readOctet? (← readChar? '.' text)
  let (d, text) ← readOctet? (← readChar? '.' text)
  return (⟨#v[a, b, c, d]⟩, text)

/-- The two groups of version 6 that an address of version 4 fills. -/
def asGroups (ip : Ipv4) : List UInt16 :=
  match ip.octets.toList.map UInt8.toNat with
  | [a, b, c, d] => [UInt16.ofNat (a * 256 + b), UInt16.ofNat (c * 256 + d)]
  | _ => []

end Ipv4

namespace Ipv6

/-- Up to `room` groups with colons between them, the last two perhaps in the form of version 4.
Gives the groups, whether that form ended them, and the rest; a colon that no group follows is
left in the rest. -/
def readGroups (room : Nat) (first : Bool) (text : List Char) :
    List UInt16 × Bool × List Char :=
  match room with
  | 0 => ([], false, text)
  | room + 1 =>
    match if first then some text else readChar? ':' text with
    | none => ([], false, text)
    | some after =>
      match if 1 ≤ room then Ipv4.read? after else none with
      | some (ip, rest) => (ip.asGroups, true, rest)
      | none =>
        match readNumber? 16 65536 (some 4) true after with
        | none => ([], false, text)
        | some (g, rest) =>
          let (groups, ended, rest) := readGroups room false rest
          (UInt16.ofNat g :: groups, ended, rest)

/-- The address of a list of eight groups. -/
def ofGroups? (groups : List UInt16) : Option Ipv6 :=
  if h : groups.length = 8 then some ⟨⟨groups.toArray, by simpa using h⟩⟩ else none

/-- An address of version 6 at the head of a text. -/
def read? (text : List Char) : Option (Ipv6 × List Char) :=
  let (front, ended, rest) := readGroups 8 true text
  if front.length = 8 then (ofGroups? front).map fun ip => (ip, rest)
  else if ended then none
  else do
    let rest ← readChar? ':' (← readChar? ':' rest)
    let (back, _, rest) := readGroups (7 - front.length) true rest
    let zeros := List.replicate (8 - front.length - back.length) 0
    let ip ← ofGroups? (front ++ zeros ++ back)
    return (ip, rest)

/-- A percent sign and the number of a scope; no scope is zero. -/
def readScope (text : List Char) : UInt32 × List Char :=
  match (readChar? '%' text).bind (readNumber? 10 4294967296 none true) with
  | some (scope, rest) => (UInt32.ofNat scope, rest)
  | none => (0, text)

end Ipv6

namespace SocketAddress

/-- A colon and a port. -/
def readPort? (text : List Char) : Option (UInt16 × List Char) := do
  let (port, rest) ← readNumber? 10 65536 none true (← readChar? ':' text)
  return (UInt16.ofNat port, rest)

/-- A socket address of version 4 at the head of a text. -/
def readV4? (text : List Char) : Option (SocketAddress × List Char) := do
  let (ip, rest) ← Ipv4.read? text
  let (port, rest) ← readPort? rest
  return (.v4 ip port, rest)

/-- A socket address of version 6 at the head of a text. -/
def readV6? (text : List Char) : Option (SocketAddress × List Char) := do
  let (ip, rest) ← Ipv6.read? (← readChar? '[' text)
  let (scope, rest) := Ipv6.readScope rest
  let (port, rest) ← readPort? (← readChar? ']' rest)
  return (.v6 ip port 0 scope, rest)

/-- The socket address that a whole text writes. -/
def ofText? (text : String) : Option SocketAddress :=
  match (readV4? text.toList).orElse fun _ => readV6? text.toList with
  | some (address, []) => some address
  | _ => none

/-- The wording of a text that writes no socket address. -/
def syntaxMessage : String :=
  "invalid socket address syntax"

end SocketAddress
end Admission
