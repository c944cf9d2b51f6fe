import Admission.Address.Reading
import Admission.Error
import Admission.Yaml.Node

/-!
# Setting values

Settings come from a file and from the environment as trees of values.  A value knows where it
came from; a table that was put together from several places does not.

* `SettingsError` — why settings are refused, with its wording;
* `Value.ofNode` — the value of a node; keys are texts or integers.
-/

namespace Admission

/-- Where a value came from. -/
inductive Origin where
  | file (path : String)
  | environment
deriving DecidableEq

/-- The end of a message about a value from somewhere. -/
def Origin.ending : Option Origin → String
  | none => ""
  | some (.file path) => " in " ++ path
  | some .environment => " in the environment"

/-- What a value was found to be. -/
inductive Found where
  | truth (value : Bool)
  | integer (value : Int)
  | natural (value : Nat)
  | real (value : Binary64)
  | text (value : String)
  | unit
  | sequence
  | map
deriving DecidableEq

/-- What a value had to be. -/
inductive Wanted where
  | real
  | integer
  | unsigned64
  | unsigned32
  | text
deriving DecidableEq

/-- The wording of what a value had to be. -/
def Wanted.phrase : Wanted → String
  | .real => "a floating point"
  | .integer => "an integer"
  | .unsigned64 => "an unsigned 64 bit or less integer"
  | .unsigned32 => "an unsigned 32 bit integer"
  | .text => "a string"

namespace Found

/-- Something in backticks. -/
def ticked (kind value : String) : String :=
  kind ++ " `" ++ value ++ "`"

/-- The wording of what a single value was found to be: numbers by their width. -/
def describe : Found → String
  | .truth value => ticked "boolean" (toString value)
  | .integer value => ticked "64-bit integer" (toString value)
  | .natural value => ticked "64-bit unsigned integer" (toString value)
  | .real value => ticked "floating point" (Decimal.plain.write value)
  | .text value => "string " ++ Text.inQuotes value
  | .unit => "unit value"
  | .sequence => "sequence"
  | .map => "map"

/-- The text of a real number; a finite one always has a point. -/
def pointed (value : Binary64) : String :=
  let text := Decimal.plain.write value
  if !value.isFinite || text.toList.contains '.' then text else text ++ ".0"

/-- The wording of what stood in a table's place: numbers by their kind. -/
def describeWhole : Found → String
  | .integer value => ticked "integer" (toString value)
  | .natural value => ticked "integer" (toString value)
  | .real value => ticked "floating point" (pointed value)
  | found => found.describe

end Found

/-- Why settings are refused. -/
inductive SettingsError where
  /-- A single value of the wrong type, under a key. -/
  | wrongType (found : Found) (wanted : Wanted) (key : String) (origin : Option Origin)
  /-- Something that stands in a table's place. -/
  | notTable (found : Found) (table : String)
  /-- A listening address that is none. -/
  | address
  /-- No file of this name. -/
  | notFound (path : String)
  /-- A text that has no reading as a table. -/
  | unreadable
  /-- A key that is neither a text nor an integer. -/
  | strayKey
  /-- A place before the first one of a sequence. -/
  | placeTooLow
  /-- A place beyond what a sequence can hold. -/
  | placeTooHigh
deriving DecidableEq

/-- The wording of refused settings. -/
def SettingsError.message : SettingsError → String
  | .wrongType found wanted key origin =>
    "invalid type: " ++ found.describe ++ ", expected " ++ wanted.phrase ++ " for key `" ++ key
      ++ "`" ++ Origin.ending origin
  | .notTable found table =>
    "invalid type: " ++ found.describeWhole ++ ", expected struct " ++ table
  | .address => SocketAddress.syntaxMessage
  | .notFound path => "configuration file \"" ++ path ++ "\" not found"
  | .unreadable => "the text has no reading as a table"
  | .strayKey => "internal error: entered unreachable code"
  | .placeTooLow => "attempt to subtract with overflow"
  | .placeTooHigh => "capacity overflow"

/-- A single value of a setting. -/
inductive Leaf where
  | null
  | truth (value : Bool)
  | integer (value : Int)
  | real (value : Binary64)
  | text (value : String)
deriving DecidableEq

/-- A tree of values, each with its origin. -/
inductive Value where
  | leaf (origin : Option Origin) (value : Leaf)
  | sequence (origin : Option Origin) (items : List Value)
  | table (origin : Option Origin) (entries : List (String × Value))

namespace Value

/-- A value that is not there. -/
def absent : Value :=
  .leaf none .null

/-- Where a value came from. -/
def origin : Value → Option Origin
  | .leaf origin _ => origin
  | .sequence origin _ => origin
  | .table origin _ => origin

/-- Where a table came from; what is no table counts as one from nowhere. -/
def tableOrigin : Value → Option Origin
  | .table origin _ => origin
  | _ => none

/-- What a value is. -/
def found : Value → Found
  | .leaf _ .null => .unit
  | .leaf _ (.truth value) => .truth value
  | .leaf _ (.integer value) => .integer value
  | .leaf _ (.real value) => .real value
  | .leaf _ (.text value) => .text value
  | .sequence .. => .sequence
  | .table .. => .map

/-- The entries of a table; anything else has none. -/
def entries : Value → List (String × Value)
  | .table _ entries => entries
  | _ => []

/-- The value of a key. -/
def lookup (key : String) : List (String × Value) → Option Value
  | [] => none
  | (k, v) :: rest => if k = key then some v else lookup key rest

/-- Entries with the value of a key replaced or added. -/
def put (key : String) (v : Value) : List (String × Value) → List (String × Value)
  | [] => [(key, v)]
  | (k, w) :: rest => if k = key then (key, v) :: rest else (k, w) :: put key v rest

/-- The value of a scalar; the words for what is infinite or not a number have none. -/
def ofScalar? : Yaml.Scalar → Option Leaf
  | .null => some .null
  | .truth value => some (.truth value)
  | .integer value => some (.integer value)
  | .real written => (Decimal.readBinary64? written.toList).map .real
  | .text value => some (.text value)

/-- The text of a key. -/
def keyText? : Yaml.Node → Option String
  | .scalar (.text value) => some value
  | .scalar (.integer value) => some (toString value)
  | _ => none

mutual

/-- The value of a node from somewhere. -/
def ofNode (origin : Option Origin) : Yaml.Node → Except SettingsError Value
  | .scalar s =>
    match ofScalar? s with
    | some value => .ok (.leaf origin value)
    | none => .error .unreadable
  | .sequence items => (ofItems origin items).map (.sequence origin)
  | .mapping entries => (ofEntries origin [] entries).map (.table origin)
  | .hollow => .ok (.leaf origin .null)
termination_by structural node => node

/-- The values of nodes. -/
def ofItems (origin : Option Origin) : List Yaml.Node → Except SettingsError (List Value)
  | [] => .ok []
  | n :: rest =>
    match ofNode origin n with
    | .error e => .error e
    | .ok v => (ofItems origin rest).map (v :: ·)
termination_by structural nodes => nodes

/-- The values of entries after others; of two under one key the later stays. -/
def ofEntries (origin : Option Origin) (earlier : List (String × Value)) :
    List (Yaml.Node × Yaml.Node) → Except SettingsError (List (String × Value))
  | [] => .ok earlier
  | (k, n) :: rest =>
    match keyText? k with
    | none => .error .strayKey
    | some key =>
      match ofNode origin n with
      | .error e => .error e
      | .ok v => ofEntries origin (put key v earlier) rest
termination_by structural nodes => nodes

end

end Value
end Admission
