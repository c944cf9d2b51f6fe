import Admission.Text.Hidden

/-!
# Text in quotes, for diagnostics

Error texts show a value in double quotes with everything unreadable spelled out: quotes and
backslashes after a backslash, common controls by letter, and any other hidden character by its
code point in hexadecimal.
-/

namespace Admission.Text

/-- A character as diagnostics show it. -/
def escapeChar (c : Char) : List Char :=
  if c = '"' then ['\\', '"']
  else if c = '\\' then ['\\', '\\']
  else if c = '\n' then ['\\', 'n']
  else if c = '\r' then ['\\', 'r']
  else if c = '\t' then ['\\', 't']
  else if c = Char.ofNat 0 then ['\\', '0']
  else if isHidden c then
    ['\\', 'u', Char.ofNat 123] ++ Nat.toDigits 16 c.toNat ++ [Char.ofNat 125]
  else [c]

/-- Text in quotes as diagnostics show it. -/
def inQuotes (s : String) : String :=
  String.ofList ('"' :: s.toList.flatMap escapeChar ++ ['"'])

end Admission.Text
