/-!
# Text that does not steer a terminal

A text that is printed may hold control characters and the sequences with which programs steer a
terminal: an escape character and what it introduces.  Only what a terminal would show is kept, and
the blanks among the controls.

* `Terminal.step` — one character, and whether it is shown;
* `withoutControls` — what is shown of a text.
-/

namespace Admission.Text

namespace Terminal

/-- Where a terminal stands in a text: at what is shown, after an escape character, after that and
a blank or mark, among the parameters of a control, in a string that an escape character ends, or in
one that a bell ends too. -/
inductive Mode where
  | shown
  | escape
  | marked
  | parameters
  | string
  | bellString
deriving DecidableEq

/-- The escape character. -/
def escapeMark : Char :=
  Char.ofNat 27

/-- Whether a character breaks off whatever has begun. -/
def breaksOff (c : Char) : Bool :=
  c.toNat == 24 || c.toNat == 26

/-- The controls that are shown as blanks: tabulator, line feed, form feed, carriage return. -/
def isBlankControl (c : Char) : Bool :=
  [9, 10, 12, 13].contains c.toNat

/-- What a character after an escape character introduces. -/
def introduced (c : Char) : Mode :=
  if c == '[' then .parameters
  else if c == ']' then .bellString
  else if ['P', 'X', '^', '_'].contains c then .string
  else if c.toNat < 48 then .marked
  else .shown

/-- One character: where the terminal stands after it, and whether it is shown.  A blank among the
controls ends a sequence that is no string and is shown. -/
def step (m : Mode) (c : Char) : Mode × Bool :=
  if c == escapeMark then (.escape, false)
  else if breaksOff c then (.shown, false)
  else if m == .bellString then (if c.toNat == 7 then .shown else m, false)
  else if m == .string then (m, false)
  else if c.toNat < 32 then if isBlankControl c then (.shown, true) else (m, false)
  else if c.toNat == 127 then (m, false)
  else if c.toNat > 127 then (.shown, true)
  else
    match m with
    | .escape => (introduced c, false)
    | .marked => (if c.toNat < 48 then .marked else .shown, false)
    | .parameters => (if c.toNat < 64 then .parameters else .shown, false)
    | _ => (.shown, true)

/-- What is shown of characters. -/
def shownOf (m : Mode) : List Char → List Char
  | [] => []
  | c :: rest =>
    let (next, isShown) := step m c
    if isShown then c :: shownOf next rest else shownOf next rest

end Terminal

/-- What is shown of a text. -/
def withoutControls (s : String) : String :=
  String.ofList (Terminal.shownOf .shown s.toList)

end Admission.Text
