/-!
# JSON strings

A string is written between quotes.  Quotes, backslashes and controls are escaped, everything
else stands for itself.  The reader knows every escape of the format.

* `escape` — the body of a string;
* `unescape?` — reads a body up to its closing quote and gives the rest.
-/

namespace Admission.Json

/-- The character that a hexadecimal digit is written as. -/
def hexDigit (n : Nat) : Char :=
  if n < 10 then Char.ofNat (48 + n) else Char.ofNat (87 + n)

/-- One character of a string's body. -/
def escapeChar (c : Char) : List Char :=
  if c = '"' then ['\\', '"']
  else if c = '\\' then ['\\', '\\']
  else if c.toNat = 8 then ['\\', 'b']
  else if c.toNat = 9 then ['\\', 't']
  else if c.toNat = 10 then ['\\', 'n']
  else if c.toNat = 12 then ['\\', 'f']
  else if c.toNat = 13 then ['\\', 'r']
  else if c.toNat < 32 then
    ['\\', 'u', '0', '0', hexDigit (c.toNat / 16), hexDigit (c.toNat % 16)]
  else [c]

/-- The body of a string. -/
def escape (s : List Char) : List Char :=
  s.flatMap escapeChar

/-- A string with its quotes. -/
def quote (s : String) : String :=
  String.ofList ('"' :: escape s.toList ++ ['"'])

/-- The value of a hexadecimal digit of either case. -/
def hexValue? (c : Char) : Option Nat :=
  if c.isDigit then some (c.toNat - 48)
  else if 'a' ≤ c ∧ c ≤ 'f' then some (c.toNat - 87)
  else if 'A' ≤ c ∧ c ≤ 'F' then some (c.toNat - 55)
  else none

/-- The code unit that four hexadecimal digits stand for. -/
def codeUnit? (a b c d : Char) : Option Nat := do
  return (((← hexValue? a) * 16 + (← hexValue? b)) * 16 + (← hexValue? c)) * 16 + (← hexValue? d)

/-- The character that the letter after a backslash stands for. -/
def shortEscape? : Char → Option Char
  | '"' => some '"'
  | '\\' => some '\\'
  | '/' => some '/'
  | 'b' => some (Char.ofNat 8)
  | 't' => some (Char.ofNat 9)
  | 'n' => some (Char.ofNat 10)
  | 'f' => some (Char.ofNat 12)
  | 'r' => some (Char.ofNat 13)
  | _ => none

/-- Reads the body of a string up to its closing quote; none when it does not end, holds a bare
control, or holds an escape the format does not have.  A pair of surrogates is one character,
and a lone one is refused. -/
def unescape? : List Char → Option (List Char × List Char)
  | [] => none
  | '"' :: rest => some ([], rest)
  | '\\' :: 'u' :: a :: b :: c :: d :: rest =>
    match codeUnit? a b c d with
    | none => none
    | some high =>
      if high < 0xD800 ∨ 0xDFFF < high then
        (unescape? rest).map fun (s, tail) => (Char.ofNat high :: s, tail)
      else if 0xDBFF < high then none
      else
        match rest with
        | '\\' :: 'u' :: a' :: b' :: c' :: d' :: rest' =>
          match codeUnit? a' b' c' d' with
          | none => none
          | some low =>
            if low < 0xDC00 ∨ 0xDFFF < low then none
            else
              (unescape? rest').map fun (s, tail) =>
                (Char.ofNat (0x10000 + (high - 0xD800) * 0x400 + (low - 0xDC00)) :: s, tail)
        | _ => none
  | '\\' :: c :: rest =>
    match shortEscape? c with
    | none => none
    | some plain => (unescape? rest).map fun (s, tail) => (plain :: s, tail)
  | c :: rest =>
    if c = '\\' ∨ c.toNat < 32 then none
    else (unescape? rest).map fun (s, tail) => (c :: s, tail)

/-- An object with a single member whose value is a string. -/
def singleton (key value : String) : String :=
  String.ofList [Char.ofNat 123] ++ quote key ++ ":" ++ quote value
    ++ String.ofList [Char.ofNat 125]

/-- Reads an object with a single member whose value is a string, written without blanks. -/
def readSingleton? (text : List Char) : Option (List Char × List Char) :=
  match text with
  | open_ :: '"' :: rest =>
    if open_.toNat ≠ 123 then none
    else
      match unescape? rest with
      | some (key, ':' :: '"' :: rest) =>
        match unescape? rest with
        | some (value, [close]) => if close.toNat = 125 then some (key, value) else none
        | _ => none
      | _ => none
  | _ => none

end Admission.Json
