/-!
# Tokens

What a text is made of: markers, indicators, and scalars with the text they stand for.  Block
collections, which a text shows by indentation, have tokens of their own for beginning and end.
-/

namespace Admission.Yaml

/-- A piece of a text.  An anchor keeps the column in which it stands. -/
inductive Token where
  | documentStart
  | documentEnd
  | blockSequence
  | blockMapping
  | blockEnd
  | blockEntry
  | flowSequence
  | flowSequenceEnd
  | flowMapping
  | flowMappingEnd
  | flowEntry
  | key
  | value
  | anchor (name : String) (column : Nat)
  | alias (name : String)
  | plain (text : String)
  | quoted (text : String)
deriving DecidableEq

end Admission.Yaml
