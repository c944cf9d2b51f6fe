import Admission.Yaml.Quoted
import Admission.Yaml.Token

/-!
# Layout

The tokens of a text, by how it is laid out.  Two things a text does not say with a character of
its own are worked out here: block collections begin where a line is indented further and end
where it is indented less, and what stands before a colon was a key all along, so a `key` token
is put in before it.

* `PendingKey` — the place where a key would begin if a colon followed;
* `Layout.roll`, `Layout.unroll` — a deeper level of indentation, and back;
* `Layout.next?` — one token further;
* `tokens?` — all tokens of a text, or none if it has no reading.

Directives, tags and block scalars are refused.
-/

namespace Admission.Yaml

/-- A level of indentation: the column of the level outside, and whether its end is the end of a
block collection. -/
structure Indent where
  outer : Int
  closes : Bool

/-- A place where a key may have begun: whether it still may, whether a colon must follow, how
many tokens stood before it, and where it is. -/
structure PendingKey where
  possible : Bool
  required : Bool
  number : Nat
  place : Cursor

/-- How far a text has been laid out: the place, the tokens so far with the latest first, the
column of the current level and the levels outside, whether a key may begin here, the pending
key, the keys that were pending around the open flow collections, and where a colon needs no space
after it.

An entry in brackets that has a colon is a mapping without braces.  `unbraced` says that one is
open, and `braced` that a brace or a question mark in a flow collection has been seen since the
latest one ended: after that, a colon opens none. -/
structure Layout where
  cursor : Cursor
  tokens : List Token
  indent : Int
  indents : List Indent
  keyAllowed : Bool
  pending : PendingKey
  flow : List PendingKey
  adjacent : Option Nat
  braced : Bool
  unbraced : Bool

namespace Layout

/-- No key pending. -/
def noKey (c : Cursor) : PendingKey :=
  ⟨false, false, 0, c⟩

/-- The beginning of a text. -/
def start (text : List Char) : Layout :=
  let c := Cursor.start text
  ⟨c, [], -1, [], true, noKey c, [], none, false, false⟩

/-- Whether the place is inside brackets or braces. -/
def inFlow (s : Layout) : Bool :=
  !s.flow.isEmpty

/-- The column here. -/
def column (s : Layout) : Int :=
  s.cursor.column

/-- Adds a token. -/
def emit (s : Layout) (t : Token) : Layout :=
  { s with tokens := t :: s.tokens }

/-- Puts a token in after a number of others. -/
def insert (s : Layout) (number : Nat) (t : Token) : Layout :=
  let later := s.tokens.length - number
  { s with tokens := s.tokens.take later ++ t :: s.tokens.drop later }

/-! ## Indentation -/

/-- Whether the innermost level ends a block collection. -/
def innermostCloses (s : Layout) : Bool :=
  s.indents.head?.any Indent.closes

/-- A level one column further in, for what must be indented more than its key. -/
def rollOne (s : Layout) : Layout :=
  if !s.inFlow && s.innermostCloses then
    { s with indents := ⟨s.indent, false⟩ :: s.indents, indent := s.indent + 1 }
  else s

/-- Drops the innermost level if it ends no collection. -/
def dropOne (s : Layout) : Layout :=
  match s.indents with
  | i :: outer => if i.closes then s else { s with indent := i.outer, indents := outer }
  | [] => s

/-- Drops the innermost levels that end no collection. -/
def dropOnes (s : Layout) : Layout :=
  (List.range s.indents.length).foldl (fun s _ => s.dropOne) s

/-- A block collection that begins in a column, if that is further in; its token is put in after
a number of others. -/
def roll (s : Layout) (column : Nat) (number : Nat) (t : Token) : Layout :=
  if s.inFlow then s
  else
    let s := if s.indent ≤ column then s.dropOne else s
    if s.indent < column then
      { s with indents := ⟨s.indent, true⟩ :: s.indents, indent := column }.insert number t
    else s

/-- Ends the levels that lie further in than a column. -/
def unrollTo (column : Int) : List Indent → Layout → Layout
  | [], s => s
  | i :: outer, s =>
    if column < s.indent then
      let s := { s with indent := i.outer, indents := outer }
      unrollTo column outer (if i.closes then s.emit .blockEnd else s)
    else s

/-- Ends the levels that lie further in than a column; in flow collections there are none. -/
def unroll (s : Layout) (column : Int) : Layout :=
  if s.inFlow then s else unrollTo column s.indents s

/-! ## Keys -/

/-- Notes that a key may begin here. -/
def noteKey (s : Layout) : Layout :=
  if s.keyAllowed then
    let required := !s.inFlow && s.indent == s.column && s.innermostCloses
    { s with pending := ⟨true, required, s.tokens.length, s.cursor⟩ }
  else s

/-- Gives the pending key up; none if a colon had to follow. -/
def forgetKey? (s : Layout) : Option Layout :=
  if s.pending.possible && s.pending.required then none
  else some { s with pending := { s.pending with possible := false } }

/-- Gives the pending key up if it lies too far back: on an earlier line, or more than 1024
characters.  None if a colon had to follow. -/
def retireKey? (s : Layout) : Option Layout :=
  if s.pending.possible && !s.inFlow && (s.pending.place.line < s.cursor.line
      || s.pending.place.index + 1024 < s.cursor.index) then
    s.forgetKey?
  else some s

/-! ## Between tokens -/

/-- Past blanks, comments and line breaks, as long as `fuel` lasts.  A tab may not indent what
stands in a block collection.  After a line break outside of flow collections a key may
begin. -/
def skipSpace? : Nat → Layout → Option Layout
  | 0, s => some s
  | fuel + 1, s =>
    let c := s.cursor
    if c.peek == '\t' && !s.indents.isEmpty && c.fresh && s.column < s.indent then
      match c.skipLine? with
      | some after =>
        if endsLine after.peek then skipSpace? fuel { s with cursor := after } else none
      | none => none
    else if isBlank c.peek then skipSpace? fuel { s with cursor := c.skipBlank }
    else if isBreak c.peek then
      skipSpace? fuel { s with
        cursor := c.skipBreak
        keyAllowed := s.keyAllowed || !s.inFlow }
    else if c.peek == '#' then skipSpace? fuel { s with cursor := c.skipComment }
    else some s

/-- Past everything between two tokens. -/
def skipToToken? (s : Layout) : Option Layout :=
  skipSpace? (s.cursor.rest.length + 1) s

/-- Past one character, and what may follow it on its line. -/
def skipIndicator? (s : Layout) : Option Layout :=
  s.cursor.step.skipLine?.map fun c => { s with cursor := c }

/-! ## Tokens -/

/-- A marker between documents. -/
def marker? (s : Layout) : Option Layout := do
  let s ← (s.unroll (-1)).forgetKey?
  let ending := s.cursor.peek == '.'
  let s := { s with keyAllowed := false, cursor := s.cursor.steps 3 }
  if ending then
    let c ← s.cursor.skipLine?
    if endsLine c.peek then some ({ s with cursor := c }.emit .documentEnd) else none
  else some (s.emit .documentStart)

/-- The beginning of a flow collection, which may be a key. -/
def flowStart? (s : Layout) (sequence : Bool) : Option Layout := do
  let s := s.noteKey.rollOne
  if 255 ≤ s.flow.length then none
  else
    let s ← { s with
      flow := s.pending :: s.flow
      pending := noKey s.cursor
      keyAllowed := true
      braced := s.braced || !sequence }.skipIndicator?
    some (s.emit (if sequence then .flowSequence else .flowMapping))

/-- Ends a mapping without braces, if one is open. -/
def endUnbraced (s : Layout) : Layout :=
  if s.unbraced then { s with unbraced := false, braced := false }.emit .flowMappingEnd else s

/-- The end of a flow collection. -/
def flowEnd? (s : Layout) (sequence : Bool) : Option Layout := do
  let s ← s.forgetKey?
  let s := match s.flow with
    | around :: outer => { s with flow := outer, pending := around }
    | [] => s
  let s := { s with keyAllowed := false }
  let s ← (if sequence then s.endUnbraced else s).skipIndicator?
  let s := if s.inFlow then { s with adjacent := some s.cursor.index } else s
  some (s.emit (if sequence then .flowSequenceEnd else .flowMappingEnd))

/-- The comma between two entries. -/
def flowEntry? (s : Layout) : Option Layout := do
  let s ← s.forgetKey?
  let s ← { s with keyAllowed := true }.endUnbraced.skipIndicator?
  some (s.emit .flowEntry)

/-- Whether the latest token is an anchor in the first column. -/
def afterFirstColumnAnchor (s : Layout) : Bool :=
  match s.tokens with
  | .anchor _ 0 :: _ => true
  | _ => false

/-- The hyphen before an entry of a block sequence. -/
def blockEntry? (s : Layout) : Option Layout := do
  if s.inFlow || !s.keyAllowed
      || (s.afterFirstColumnAnchor && s.column == 0 && -1 < s.indent) then none
  else
    let column := s.cursor.column
    let tabbed := (s.cursor.step.rest.takeWhile isBlank).contains '\t'
    let s ← (s.roll column s.tokens.length .blockSequence).skipIndicator?
    if tabbed && s.cursor.peek == '-' && isSpace (s.cursor.peekAt 1) then none
    else
      let s := if isBreak s.cursor.peek || isFlow s.cursor.peek then s.rollOne else s
      let s ← s.forgetKey?
      some ({ s with keyAllowed := true }.emit .blockEntry)

/-- The question mark before a key. -/
def explicitKey? (s : Layout) : Option Layout := do
  if !s.inFlow && !s.keyAllowed then none
  else
    let s := s.roll s.cursor.column s.tokens.length .blockMapping
    let s ← s.forgetKey?
    let mark := s.cursor.step
    let c := mark.skipLines
    if c.index == mark.index || c.peek == '\t' then none
    else
      some ({ s with
        keyAllowed := !s.inFlow
        braced := s.braced || s.inFlow
        cursor := c }.emit .key)

/-- Whether a tab without a space separates a colon from a word. -/
def tabbedWord (c : Cursor) : Bool :=
  let blanks := c.rest.takeWhile isBlank
  c.peek == '\t' && !blanks.contains ' '
    && (c.rest.drop blanks.length).head?.any isWordChar

/-- The colon after a key.  If a key was pending, it is one now, and it may begin a block
mapping, or one without braces; the key of the latter stands on one line with the colon. -/
def value? (s : Layout) : Option Layout := do
  let colon := s.cursor
  let key := s.pending
  let after := colon.step
  if tabbedWord after then none
  else
    let c ← if after.peek == '\t' then after.skipLine? else some after
    let unbraced := s.inFlow && !s.braced
    let s := { s with cursor := c, unbraced := unbraced }
    if key.possible then
      if unbraced && key.place.line < colon.line then none
      else
        let s := s.insert key.number .key
        let s := if unbraced then s.insert key.number .flowMapping else s
        let s := (s.roll key.place.column key.number .blockMapping).rollOne
        some ({ s with
          pending := { s.pending with possible := false }
          keyAllowed := false }.emit .value)
    else if s.inFlow then
      let s := if unbraced then s.emit .flowMapping else s
      some ({ s with keyAllowed := false }.emit .value)
    else if !s.keyAllowed then none
    else
      let s := (s.roll colon.column s.tokens.length .blockMapping).rollOne
      some ({ s with keyAllowed := true }.emit .value)

/-- Whether a character can be part of an anchor's name.  The mark for the order of bytes
cannot. -/
def isNameChar (c : Char) : Bool :=
  !isSpace c && !isFlow c && c != Char.ofNat 0xfeff

/-- An anchor or an alias. -/
def name? (s : Layout) (isAlias : Bool) : Option Layout :=
  let s := { s.noteKey with keyAllowed := false }
  let column := s.cursor.column
  let c := s.cursor.step
  let name := c.rest.takeWhile isNameChar
  if name.isEmpty then none
  else
    let name := String.ofList name
    let s := { s with cursor := c.skipWhile isNameChar }
    some (s.emit (if isAlias then .alias name else .anchor name column))

/-- A scalar in quotes, which may be a key.  In a flow collection a colon may follow it without a
space. -/
def quoted? (s : Layout) (style : Quoted.Style) : Option Layout := do
  let s := { s.noteKey with keyAllowed := false }
  let (text, c) ← Quoted.scan style s.inFlow s.indent s.cursor
  let s ← { s with cursor := c }.skipToToken?
  some ({ s with adjacent := some s.cursor.index }.emit (.quoted (String.ofList text)))

/-- A scalar without quotes, which may be a key.  If it took a line break with it, a key may
begin after it. -/
def plain? (s : Layout) : Option Layout := do
  let s := { s.noteKey with keyAllowed := false }.dropOnes
  let indent := s.indent + 1
  if s.inFlow && s.column < indent then none
  else
    let (text, c) ← Plain.scan s.inFlow indent (s.cursor.rest.length + 1) .empty s.cursor
    some ({ s with cursor := c, keyAllowed := s.keyAllowed || c.fresh }.emit
      (.plain (String.ofList text)))

/-- The end of the text. -/
def finish? (s : Layout) : Option Layout :=
  if s.pending.possible && s.pending.required
      || s.flow.any (fun around => around.possible && around.required) then none
  else some (s.unroll (-1))

/-- Characters that begin no token. -/
def isReserved (c : Char) : Bool :=
  ['%', '@', '!', Char.ofNat 96].contains c

/-- The token that begins here. -/
def token? (s : Layout) : Option Layout :=
  let c := s.cursor.peek
  let next := s.cursor.peekAt 1
  if c == '[' then s.flowStart? true
  else if c == '\x7b' then s.flowStart? false
  else if c == ']' then s.flowEnd? true
  else if c == '\x7d' then s.flowEnd? false
  else if c == ',' then s.flowEntry?
  else if c == '-' && isSpace next then s.blockEntry?
  else if c == '?' && isSpace next then s.explicitKey?
  else if c == ':' && (isSpace next
      || (s.inFlow && (isFlow next || s.adjacent == some s.cursor.index))) then s.value?
  else if c == '*' then s.name? true
  else if c == '&' then s.name? false
  else if c == Quoted.Style.single.mark then s.quoted? .single
  else if c == Quoted.Style.double.mark then s.quoted? .double
  else if isReserved c || (!s.inFlow && (c == '|' || c == '>')) then none
  else s.plain?

/-- One token further, or to the end; says whether the end is reached. -/
def next? (s : Layout) : Option (Bool × Layout) := do
  let s ← s.skipToToken?
  let s ← s.retireKey?
  let s := s.unroll s.column
  if s.cursor.peek == endMark then s.finish?.map fun s => (true, s)
  else if s.cursor.column == 0 && s.cursor.peek == '%' then none
  else if s.cursor.atMarker then s.marker?.map fun s => (false, s)
  else if s.column < s.indent then none
  else s.token?.map fun s => (false, s)

/-- All tokens, as long as `fuel` lasts. -/
def all? : Nat → Layout → Option (List Token)
  | 0, _ => none
  | fuel + 1, s =>
    match s.next? with
    | none => none
    | some (true, s) => some s.tokens.reverse
    | some (false, s) => all? fuel s

end Layout

/-- The tokens of a text.  Each takes at least one character, so there are no more of them than
characters. -/
def tokens? (text : String) : Option (List Token) :=
  Layout.all? (text.toList.length + 1) (.start text.toList)

end Admission.Yaml
