import Admission.Decimal.Reading
import Admission.Event
import Admission.Text.Alphanumeric

/-!
# Log filters

A filter says which events are told: a list of directives, each a level for all sources or for
those whose names begin alike.  The directive with the longest name decides; without one an event
is not told.

* `directive?` — the directive that a text writes;
* `Filter.ofText?` — the filter that a text writes, or none if a part of it is no directive;
* `Filter.ofVariable` — the filter of a variable that may be missing or wrong;
* `Filter.tells` — whether an event is told.

A directive may have brackets that restrict it: to what happens in a span of some name or with some
value, which no event does, or to events that have a field.
-/

namespace Admission.Log

/-- A directive: how sources begin that it is about, the fields that events must have, and the
least level that it tells, or none to tell nothing. -/
structure Directive where
  source : String
  fields : List String
  least : Option Level
deriving DecidableEq

/-- A list of directives. -/
abbrev Filter :=
  List Directive

/-! ## Levels -/

/-- The levels by their numbers, from none at all. -/
def numberedLevels : List (Option Level) :=
  [none, some .error, some .warn, some .info, some .debug, some .trace]

/-- The levels by their names. -/
def namedLevels : List (String × Option Level) :=
  [("off", none), ("error", some .error), ("warn", some .warn), ("info", some .info),
    ("debug", some .debug), ("trace", some .trace)]

/-- The greatest number of a level. -/
def greatestLevel : Nat :=
  5

/-- The level of a number or of a name in any case; the inner value is none for "off". -/
def level? (text : List Char) : Option (Option Level) :=
  match Decimal.readNat? greatestLevel text with
  | some n => numberedLevels[n]?
  | none => namedLevels.lookup (Header.lowerName (String.ofList text))

/-- The level after an equals sign; without one everything is told. -/
def levelOrAll? (text : List Char) : Option (Option Level) :=
  if text.isEmpty then some (some .trace) else level? text

/-! ## Directives

The parts of a directive are measured without the blanks around it, but cut out of the text as it
stands: blanks before a directive move its parts. -/

/-- Whether a character is a blank of any kind. -/
def isBlank (c : Char) : Bool :=
  let n := c.toNat
  (9 ≤ n && n ≤ 13) || (8192 ≤ n && n ≤ 8202)
    || [32, 133, 160, 5760, 8232, 8233, 8239, 8287, 12288].contains n

/-- A text without the blanks around it. -/
def bare (text : List Char) : List Char :=
  ((text.dropWhile isBlank).reverse.dropWhile isBlank).reverse

/-- The part of a text from one place up to another. -/
def cut (text : List Char) (start stop : Nat) : String :=
  String.ofList ((text.drop start).take (stop - start))

/-- Whether a character may begin the name of sources. -/
def beginsSource (c : Char) : Bool :=
  ['-', ':', '_'].contains c || Text.isAlphanumeric c

/-- The level at the end of a directive, from a place on: after an equals sign, or nothing. -/
def ending? (text : List Char) (start : Nat) : Option (Option Level) :=
  match (bare text).drop start with
  | [] => some (some .trace)
  | '=' :: _ => levelOrAll? (text.drop (start + 1))
  | _ => none

/-- A directive about what has a field in braces that begin at a place, in a span if `spanned`.
The inner value is none if it can be about no event. -/
def fielded? (text : List Char) (source : String) (spanned : Bool) (start : Nat) :
    Option (Option Directive) :=
  let stop := start + (((bare text).drop start).takeWhile (· != '\x7d')).length
  let field := cut text start stop
  match (bare text).drop stop with
  | _ :: ']' :: _ =>
    if field.isEmpty then none
    else
      (ending? text (stop + 2)).map fun least =>
        if spanned || field.toList.contains '=' then none else some ⟨source, [field], least⟩
  | _ => none

/-- A directive with brackets that begin at a place. -/
def bracketed? (text : List Char) (source : String) (start : Nat) : Option (Option Directive) :=
  let isEnd (c : Char) := c == ']' || c == '\x7b'
  let stop := start + (((bare text).drop start).takeWhile fun c => !isEnd c).length
  match (bare text).drop stop with
  | ']' :: _ => (ending? text (stop + 1)).map fun _ => none
  | '\x7b' :: _ => fielded? text source (!(cut text start stop).isEmpty) (stop + 1)
  | _ => none

/-- The directive that a text writes: a level for everything, or the name of sources, with brackets
and a level or without.  Without a level everything is told.  The inner value is none if it can be
about no event. -/
def directive? (text : List Char) : Option (Option Directive) :=
  match bare text with
  | [] => none
  | '[' :: _ => bracketed? text "" 1
  | first :: rest =>
    if !beginsSource first then none
    else
      let stop := ((first :: rest).takeWhile fun c => c != '=' && c != '[').length
      match (first :: rest).drop stop with
      | '=' :: _ =>
        (levelOrAll? (text.drop (stop + 1))).map fun least => some ⟨cut text 0 stop, [], least⟩
      | _ :: _ => bracketed? text (cut text 0 stop) (stop + 1)
      | [] =>
        match level? text with
        | some least => some (some ⟨"", [], least⟩)
        | none => some (some ⟨String.ofList text, [], some .trace⟩)

namespace Filter

/-- One level for everything. -/
def everything (least : Level) : Filter :=
  [⟨"", [], some least⟩]

/-- The filter that a text writes: directives with commas between them.  Without any, errors are
told. -/
def ofText? (text : String) : Option Filter :=
  match (text.toList.splitOn ',').filter fun part => !part.isEmpty with
  | [] => some (everything .error)
  | parts => (parts.mapM directive?).map fun directives => directives.filterMap id

/-- The filter of a variable.  If it is missing or writes no filter, information is told. -/
def ofVariable (text : Option String) : Filter :=
  (text.bind ofText?).getD (everything .info)

/-- Whether a directive is about an event. -/
def concerns (d : Directive) (e : Event) : Bool :=
  d.source.toList.isPrefixOf e.source.toList
    && d.fields.all fun field => field == "message" || e.fields.any fun f => f.name == field

/-- Whether a directive says more exactly than another what it is about. -/
def outranks (c d : Directive) : Bool :=
  if c.source.length ≠ d.source.length then d.source.length < c.source.length
  else if c.fields.length ≠ d.fields.length then d.fields.length < c.fields.length
  else d.fields < c.fields

/-- The directive that decides about an event: the longest name, and of equals the last. -/
def deciding? (f : Filter) (e : Event) : Option Directive :=
  (f.filter fun d => concerns d e).foldl
    (fun chosen d =>
      match chosen with
      | some c => if outranks c d then some c else some d
      | none => some d)
    none

/-- Whether an event is told. -/
def tells (f : Filter) (e : Event) : Bool :=
  match f.deciding? e with
  | some ⟨_, _, some least⟩ => least.rank ≤ e.level.rank
  | _ => false

end Filter
end Admission.Log
