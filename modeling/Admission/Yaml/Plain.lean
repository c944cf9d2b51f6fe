import Admission.Yaml.Cursor

/-!
# Plain scalars

A scalar without quotes runs until something that means more than itself: a colon before a
space, a comment after one, a bracket inside brackets, or a line that is indented less.  Line
breaks inside it are folded: one is a space, and of more, all but the first stay.
-/

namespace Admission.Yaml

/-- What stands between two pieces of a scalar: blanks, whether a line was broken after them, and
how many further breaks there were. -/
structure Gap where
  blanks : List Char
  broken : Bool
  breaks : Nat

namespace Gap

/-- No gap. -/
def empty : Gap :=
  ⟨[], false, 0⟩

/-- A gap with one more line break. -/
def addBreak (g : Gap) : Gap :=
  if g.broken then { g with breaks := g.breaks + 1 } else ⟨[], true, 0⟩

/-- The text of a gap. -/
def text (g : Gap) : List Char :=
  if !g.broken then g.blanks
  else if g.breaks == 0 then [' ']
  else List.replicate g.breaks '\n'

end Gap

namespace Plain

/-- Whether a character can be part of a plain scalar before another. -/
def admits (inFlow : Bool) (c next : Char) : Bool :=
  if c == ':' then !(isSpace next || (inFlow && isFlow next))
  else !(inFlow && isFlow c)

/-- The piece of a plain scalar that a text begins with. -/
def piece (inFlow : Bool) : List Char → List Char
  | [] => []
  | c :: rest =>
    if isSpace c || !admits inFlow c (rest.headD endMark) then []
    else c :: piece inFlow rest

/-- Past blanks and line breaks, as long as `fuel` lasts.  A tab where a line is indented is
refused unless nothing but a comment follows; the break after the comment then counts as part of
the one before. -/
def skipGap (indent : Int) : Nat → Gap → Cursor → Option (Gap × Cursor)
  | 0, gap, c => some (gap, c)
  | fuel + 1, gap, c =>
    if isBlank c.peek then
      if !c.fresh then skipGap indent fuel { gap with blanks := gap.blanks ++ [c.peek] } c.skipBlank
      else if c.peek == '\t' && (c.column : Int) < indent then
        match c.skipLine? with
        | some after => if endsLine after.peek then skipGap indent fuel gap after else none
        | none => none
      else skipGap indent fuel gap c.skipBlank
    else if isBreak c.peek then
      skipGap indent fuel (if gap.broken && !c.fresh then gap else gap.addBreak) c.skipBreak
    else some (gap, c)

/-- The text of a plain scalar from here on, as long as `fuel` lasts, after a gap; `indent` is
the least column of its lines. -/
def scan (inFlow : Bool) (indent : Int) : Nat → Gap → Cursor → Option (List Char × Cursor)
  | 0, _, c => some ([], c)
  | fuel + 1, gap, c =>
    if c.atMarker || c.peek == '#' then some ([], c)
    else if inFlow && c.peek == '-' && isFlow (c.peekAt 1) then none
    else
      let here := piece inFlow c.rest
      let after := c.steps here.length
      let text := if here.isEmpty then [] else gap.text ++ here
      if !(isBlank after.peek || isBreak after.peek) then some (text, after)
      else
        match skipGap indent (after.rest.length + 1) .empty after with
        | none => none
        | some (gap, next) =>
          if !inFlow && (next.column : Int) < indent then some (text, next)
          else (scan inFlow indent fuel gap next).map fun (more, c) => (text ++ more, c)

end Plain
end Admission.Yaml
