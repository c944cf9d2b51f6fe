import Admission.Address.Basic

/-!
# Requests and responses

What a layer sees of a request, and what it answers.  Header values are bytes, header names
compare without regard to case, and a request's target is split into its parts once.
-/

namespace Admission

/-- A status code of three digits. -/
structure Status where
  code : Nat
  valid : 100 ≤ code ∧ code ≤ 999
deriving DecidableEq

namespace Status

/-- The status of a number, if it has three digits. -/
def of? (code : Nat) : Option Status :=
  if h : 100 ≤ code ∧ code ≤ 999 then some ⟨code, h⟩ else none

def ok : Status := ⟨200, by decide⟩
def forbidden : Status := ⟨403, by decide⟩
def notFound : Status := ⟨404, by decide⟩
def methodNotAllowed : Status := ⟨405, by decide⟩
def teapot : Status := ⟨418, by decide⟩
def tooManyRequests : Status := ⟨429, by decide⟩
def serviceUnavailable : Status := ⟨503, by decide⟩

end Status

/-- The target of a request: a scheme and an authority when it is absolute, a path, and what
follows a question mark. -/
structure Target where
  scheme : Option String
  authority : String
  path : String
  query : Option String
deriving DecidableEq

namespace Target

/-- Splits a path from its query; a fragment is dropped. -/
def ofPath (scheme : Option String) (authority : String) (text : List Char) : Target :=
  let text := text.takeWhile (· != '#')
  let path := String.ofList (text.takeWhile (· != '?'))
  let path := if path.isEmpty && scheme.isSome then "/" else path
  match text.dropWhile (· != '?') with
  | _ :: query => ⟨scheme, authority, path, some (String.ofList query)⟩
  | [] => ⟨scheme, authority, path, none⟩

/-- Whether a character ends the authority of an absolute target. -/
def endsAuthority (c : Char) : Bool :=
  c == '/' || c == '?' || c == '#'

/-- The parts after a scheme and its two slashes. -/
def ofAuthority (scheme : Option String) (text : List Char) : Target :=
  ofPath scheme (String.ofList (text.takeWhile fun c => !endsAuthority c))
    (text.dropWhile fun c => !endsAuthority c)

/-- A scheme as it is kept: those of the protocol in lower case, others as they are written. -/
def keptScheme (scheme : List Char) : String :=
  let lower := String.ofList (scheme.map Char.toLower)
  if lower = "http" ∨ lower = "https" then lower else String.ofList scheme

/-- The parts of a target: absolute, a path, a bare authority, or the asterisk. -/
def ofText (text : String) : Target :=
  let cs := text.toList
  let scheme := cs.takeWhile (· != ':')
  match cs.dropWhile (· != ':') with
  | ':' :: '/' :: '/' :: rest =>
    if scheme.any endsAuthority then ofPath none "" cs
    else ofAuthority (some (keptScheme scheme)) rest
  | _ =>
    match cs with
    | '/' :: _ => ofPath none "" cs
    | ['*'] => ofPath none "" cs
    | _ => ofAuthority none cs

/-- The text of a target.  An absolute one has a path even if it was written without. -/
def write (t : Target) : String :=
  (match t.scheme with
    | some scheme => scheme ++ "://"
    | none => "")
    ++ t.authority ++ t.path
    ++ match t.query with
      | some query => "?" ++ query
      | none => ""

end Target

/-- A header line: a name and the bytes of its value. -/
structure Header where
  name : String
  value : List UInt8

/-- A request as a layer sees it.  The two addresses are those a server may have recorded for
the connection; `trusted` marks a request that the program itself makes. -/
structure Request where
  method : String
  target : Target
  headers : List Header
  connection : Option SocketAddress
  peer : Option SocketAddress
  trusted : Bool
  body : String

namespace Header

/-- A name with its letters in lower case. -/
def lowerName (name : String) : String :=
  String.ofList (name.toList.map Char.toLower)

/-- Whether a character may stand in a header name. -/
def isNameChar (c : Char) : Bool :=
  c.isAlphanum || "!#$%&'*+-.^_`|~".toList.contains c

/-- A header name in lower case: at least one character, all of them allowed. -/
def nameOf? (text : String) : Option String :=
  if text.isEmpty || !text.toList.all isNameChar then none else some (lowerName text)

/-- Whether a byte is printable, a blank or a tab. -/
def isReadable (b : UInt8) : Bool :=
  (32 ≤ b && b < 127) || b == 9

/-- The text of a value whose bytes are all readable. -/
def readable? (value : List UInt8) : Option (List Char) :=
  if value.all isReadable then some (value.map fun b => Char.ofNat b.toNat) else none

end Header

/-- The value of the first line of a header; the name is in lower case. -/
def Request.header? (r : Request) (name : String) : Option (List UInt8) :=
  (r.headers.find? fun h => Header.lowerName h.name == name).map Header.value

/-- A response: a status, header lines, and a body. -/
structure Response where
  status : Status
  headers : List (String × String)
  body : String
deriving DecidableEq

end Admission
