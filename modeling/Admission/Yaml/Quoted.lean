import Admission.Address.Reading
import Admission.Yaml.Plain

/-!
# Quoted scalars

Between single quotes only a doubled quote stands for something else; between double quotes
there are escapes.  Line breaks are folded as in a plain scalar, and an escaped break vanishes.
-/

namespace Admission.Yaml.Quoted

/-- The two kinds of quotes. -/
inductive Style where
  | single
  | double
deriving DecidableEq

/-- The quote itself. -/
def Style.mark : Style → Char
  | .single => Char.ofNat 39
  | .double => '"'

/-- The character that a letter after a backslash stands for. -/
def escaped? (c : Char) : Option Char :=
  [('0', 0), ('a', 7), ('b', 8), ('t', 9), ('\t', 9), ('n', 10), ('v', 11), ('f', 12), ('r', 13),
    ('e', 27), (' ', 32), ('"', 34), ('/', 47), ('\\', 92), ('N', 0x85), ('_', 0xa0),
    ('L', 0x2028), ('P', 0x2029)].lookup c |>.map Char.ofNat

/-- How many hexadecimal digits follow a letter after a backslash. -/
def codeWidth? (c : Char) : Option Nat :=
  [('x', 2), ('u', 4), ('U', 8)].lookup c

/-- The character of a code in hexadecimal; all digits must be there, and surrogates have no
character. -/
def ofCode? (width : Nat) (digits : List Char) : Option Char := do
  let values ← digits.mapM (digitIn? 16)
  if values.length ≠ width then none
  else
    let code := values.foldl (fun n d => n * 16 + d) 0
    if Nat.isValidChar code then some (Char.ofNat code) else none

/-- The characters up to a blank, a break or the closing quote, as long as `fuel` lasts.  Says
whether an escaped line break ended them. -/
def piece (style : Style) : Nat → Cursor → Option (List Char × Bool × Cursor)
  | 0, c => some ([], false, c)
  | fuel + 1, c =>
    let next (d : Char) (width : Nat) :=
      (piece style fuel (c.steps width)).map fun (more, broken, c) => (d :: more, broken, c)
    if isSpace c.peek then some ([], false, c)
    else if c.peek == style.mark then
      if style == .single && c.peekAt 1 == style.mark then next style.mark 2
      else some ([], false, c)
    else if style == .double && c.peek == '\\' then
      if isBreak (c.peekAt 1) then some ([], true, c.step.skipBreak)
      else
        match escaped? (c.peekAt 1), codeWidth? (c.peekAt 1) with
        | some d, _ => next d 2
        | none, some width =>
          match ofCode? width ((c.rest.drop 2).take width) with
          | some d => next d (2 + width)
          | none => none
        | none, none => none
    else next c.peek 1

/-- Past blanks and line breaks, as long as `fuel` lasts.  A tab may not indent a line. -/
def skipGap (indent : Int) : Nat → Gap → Cursor → Option (Gap × Cursor)
  | 0, gap, c => some (gap, c)
  | fuel + 1, gap, c =>
    if isBlank c.peek then
      if gap.broken then
        if c.peek == '\t' && (c.column : Int) < indent then none
        else skipGap indent fuel gap c.skipBlank
      else skipGap indent fuel { gap with blanks := gap.blanks ++ [c.peek] } c.skipBlank
    else if isBreak c.peek then skipGap indent fuel gap.addBreak c.skipBreak
    else some (gap, c)

/-- The text of a gap.  After an escaped break every further one stays. -/
def gapText (escaped : Bool) (gap : Gap) : List Char :=
  if escaped then List.replicate gap.breaks '\n' else gap.text

/-- The text up to the closing quote, as long as `fuel` lasts; none if the text ends first, a
marker stands in the way, or a line is indented less than `indent`. -/
def body (style : Style) (indent : Int) : Nat → Cursor → Option (List Char × Cursor)
  | 0, _ => none
  | fuel + 1, c =>
    if c.atMarker || c.peek == endMark || (c.column : Int) < indent then none
    else
      match piece style (c.rest.length + 1) c with
      | none => none
      | some (text, escaped, after) =>
        if after.peek == style.mark then some (text, after)
        else
          match skipGap indent (after.rest.length + 1) ⟨[], escaped, 0⟩ after with
          | none => none
          | some (gap, next) =>
            (body style indent fuel next).map fun (more, c) =>
              (text ++ gapText escaped gap ++ more, c)

/-- A quoted scalar from its opening quote on, and what follows its closing one.  On the same
line there may follow a comment, a colon if the scalar is on one line or in a flow collection,
and there a comma or a closing bracket too. -/
def scan (style : Style) (inFlow : Bool) (indent : Int) (c : Cursor) :
    Option (List Char × Cursor) := do
  let (text, last) ← body style indent (c.rest.length + 1) c.step
  let after ← last.step.skipLine?
  let follows := after.peek
  if endsLine follows || (inFlow && [',', ']', '\x7d', ':'].contains follows)
      || (!inFlow && follows == ':' && c.line == after.line) then
    some (text, after)
  else none

end Admission.Yaml.Quoted
