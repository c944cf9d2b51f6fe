/-!
# A place in a text

A cursor is what is left of a text, and where that begins: its index, line and column, and
whether only blanks stand before it on its line.  The end of the text reads as the character
with code `0`, and a text that holds that character ends there.

* `Cursor.step`, `Cursor.skipBlank`, `Cursor.skipBreak` — past one character, by its kind;
* `Cursor.skipLine?` — past blanks and a comment; a comment must follow a blank;
* `Cursor.skipLines` — past spaces, line breaks and comments.
-/

namespace Admission.Yaml

/-- The character that stands for the end of a text. -/
def endMark : Char :=
  Char.ofNat 0

/-- A space or a tab. -/
def isBlank (c : Char) : Bool :=
  c == ' ' || c == '\t'

/-- A line break. -/
def isBreak (c : Char) : Bool :=
  c == '\n' || c == '\r'

/-- A line break or the end of the text. -/
def endsLine (c : Char) : Bool :=
  isBreak c || c == endMark

/-- A blank, a line break, or the end of the text. -/
def isSpace (c : Char) : Bool :=
  isBlank c || endsLine c

/-- The brackets, braces and commas of collections written in one line. -/
def isFlow (c : Char) : Bool :=
  [',', '[', ']', '\x7b', '\x7d'].contains c

/-- A letter, a digit, an underscore or a hyphen. -/
def isWordChar (c : Char) : Bool :=
  c.isAlphanum || c == '_' || c == '-'

/-- A place in a text. -/
structure Cursor where
  rest : List Char
  index : Nat
  line : Nat
  column : Nat
  fresh : Bool

namespace Cursor

/-- The beginning of a text. -/
def start (text : List Char) : Cursor :=
  ⟨text, 0, 0, 0, true⟩

/-- The character here. -/
def peek (c : Cursor) : Char :=
  c.rest.headD endMark

/-- The character after a number of others. -/
def peekAt (c : Cursor) (n : Nat) : Char :=
  (c.rest.drop n).headD endMark

/-- Past a number of characters that are neither blanks nor line breaks. -/
def steps (c : Cursor) (n : Nat) : Cursor :=
  ⟨c.rest.drop n, c.index + n, c.line, c.column + n, c.fresh && n == 0⟩

/-- Past one character that is neither a blank nor a line break. -/
def step (c : Cursor) : Cursor :=
  c.steps 1

/-- Past one blank. -/
def skipBlank (c : Cursor) : Cursor :=
  { c with rest := c.rest.drop 1, index := c.index + 1, column := c.column + 1 }

/-- Past a line break, which may be a carriage return and a line feed. -/
def skipBreak (c : Cursor) : Cursor :=
  let width := if c.peek == '\r' && c.peekAt 1 == '\n' then 2 else 1
  ⟨c.rest.drop width, c.index + width, c.line + 1, 0, true⟩

/-- Past the characters up to the first that does not have a property; they hold no line
break. -/
def skipWhile (c : Cursor) (p : Char → Bool) : Cursor :=
  c.steps (c.rest.takeWhile p).length

/-- Past blanks. -/
def skipBlanks (c : Cursor) : Cursor :=
  { c.skipWhile isBlank with fresh := c.fresh }

/-- Past a comment, up to the end of its line. -/
def skipComment (c : Cursor) : Cursor :=
  c.skipWhile fun d => !endsLine d

/-- Past blanks and a comment on the same line; none if a comment follows no blank. -/
def skipLine? (c : Cursor) : Option Cursor :=
  let after := c.skipBlanks
  if after.peek == '#' then
    if after.index == c.index then none else some after.skipComment
  else some after

/-- Past spaces, line breaks and comments, as long as `fuel` lasts. -/
def skipLinesFor : Nat → Cursor → Cursor
  | 0, c => c
  | fuel + 1, c =>
    if c.peek == ' ' then skipLinesFor fuel c.skipBlank
    else if isBreak c.peek then skipLinesFor fuel c.skipBreak
    else if c.peek == '#' then skipLinesFor fuel c.skipComment
    else c

/-- Past spaces, line breaks and comments. -/
def skipLines (c : Cursor) : Cursor :=
  skipLinesFor (c.rest.length + 1) c

/-- Whether a line begins here with three hyphens or three points that stand alone. -/
def atMarker (c : Cursor) : Bool :=
  c.column == 0 && isSpace (c.peekAt 3)
    && (c.rest.take 3 == ['-', '-', '-'] || c.rest.take 3 == ['.', '.', '.'])

end Cursor
end Admission.Yaml
