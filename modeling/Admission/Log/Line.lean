import Admission.Event

/-!
# Log lines

An event is told in one line, as text or as an object.

* `Line.text` — the level, the message, and the fields;
* `Line.object` — the same with names, and the source.
-/

namespace Admission.Log

/-- The two forms of a line. -/
inductive Form where
  | text
  | object
deriving DecidableEq

/-- How real numbers are written in an object. -/
def objectLayout : Decimal.Layout :=
  ⟨fun order => -5 ≤ order ∧ order < 16, true⟩

namespace Line

/-- A field's value in text. -/
def valueText : FieldValue → String
  | .text value => value
  | .real value => Decimal.logged.write value
  | .count value => toString value
  | .truth value => toString value

/-- A line of text: the level, the message, and the fields. -/
def text (e : Event) : String :=
  " ".intercalate
    (e.level.text :: e.message :: e.fields.map fun f => f.name ++ "=" ++ valueText f.value)

/-- A field's value in an object.  What is not finite has no form there. -/
def valueObject : FieldValue → String
  | .text value => Json.quote value
  | .real value => if value.isFinite then objectLayout.write value else "null"
  | .count value => toString value
  | .truth value => toString value

/-- An object with the given members. -/
def members (fields : List (String × String)) : String :=
  "\x7b" ++ ",".intercalate (fields.map fun (name, value) => Json.quote name ++ ":" ++ value)
    ++ "\x7d"

/-- A line with names: the level, the fields with the message among them, and the source. -/
def object (e : Event) : String :=
  members [("level", Json.quote e.level.text),
    ("fields", members (("message", Json.quote e.message)
      :: e.fields.map fun f => (f.name, valueObject f.value))),
    ("target", Json.quote e.source)]

/-- The line of an event in a form. -/
def write : Form → Event → String
  | .text => text
  | .object => object

end Line
end Admission.Log
