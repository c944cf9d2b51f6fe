import Admission.Error
import Admission.Http

/-!
# Who a request comes from

An identifier is the text under which a store keeps a client's tokens.  `realIp` asks four
sources in turn and takes the first that has an answer; `ofHeader` takes one header and nothing
else.

* `forwarded?` — the first part of the first line of `x-forwarded-for`;
* `realIpHeader?` — the first line of `x-real-ip`;
* the address recorded for the connection, then the peer's address, without port and scope.
-/

namespace Admission.Identifier

/-- Whether a character is a blank or a tab, the only blanks that readable text has. -/
def isBlank (c : Char) : Bool :=
  c == ' ' || c == '\t'

/-- Text without blanks at either end. -/
def trim (text : List Char) : List Char :=
  ((text.dropWhile isBlank).reverse.dropWhile isBlank).reverse

/-- Text without one opening bracket at its head and one closing bracket at its end. -/
def stripBrackets (text : List Char) : List Char :=
  let text := match text with
    | '[' :: rest => rest
    | _ => text
  match text.reverse with
  | ']' :: rest => rest.reverse
  | _ => text

/-- The address that a text names: blanks are cut off, then brackets; none if nothing is left. -/
def named? (text : List Char) : Option String :=
  let name := stripBrackets (trim text)
  if name.isEmpty then none else some (String.ofList name)

/-- The first address of `x-forwarded-for`: what stands before the first comma of its first
line. -/
def forwarded? (r : Request) : Option String :=
  ((r.header? "x-forwarded-for").bind Header.readable?).bind fun line =>
    named? (line.takeWhile (· != ','))

/-- The address of `x-real-ip`: its first line. -/
def realIpHeader? (r : Request) : Option String :=
  ((r.header? "x-real-ip").bind Header.readable?).bind named?

/-- The sources of a client's address, the first to be trusted most. -/
def sources : List (Request → Option String) :=
  [forwarded?, realIpHeader?,
    fun r => r.connection.map fun a => a.ip.write,
    fun r => r.peer.map fun a => a.ip.write]

/-- The client's address from the first source that has one. -/
def realIp (r : Request) : Except IdentifierError String :=
  match sources.findSome? fun source => source r with
  | some id => .ok id
  | none => .error .missing

/-- The first line of one header, without blanks at either end; its name is in lower case. -/
def ofHeader (name : String) (r : Request) : Except IdentifierError String :=
  match r.header? name with
  | none => .error (.missingHeader name)
  | some value =>
    match Header.readable? value with
    | none => .error (.invalidHeader name)
    | some text =>
      let id := trim text
      if id.isEmpty then .error (.invalidHeader name) else .ok (String.ofList id)

end Admission.Identifier
