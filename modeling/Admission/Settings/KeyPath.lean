import Admission.Http
import Admission.Settings.Value

/-!
# Key paths

A key at the top of a source may be a path into the tree: names with points between them, and
places of sequences in brackets.  Values that arrive later replace earlier ones; tables are
merged, and the names of what arrives are put in lower case.

* `KeyPath.read?` — the path that a key writes;
* `Value.merge` — a value arrives under a name;
* `KeyPath.set` — a value arrives at the end of a path;
* `KeyPath.arrive` — a value arrives under a key, as a path if the key is one.
-/

namespace Admission

namespace Value

mutual

/-- Entries after a value has arrived under a name.  A table is merged with what is there; an
empty one changes nothing that is there.  A table keeps its origin, whatever arrives in it. -/
def merge (root : List (String × Value)) (name : String) : Value → List (String × Value)
  | .table _ incoming =>
    let name := Header.lowerName name
    let there := (lookup name root).getD (.table none [])
    match incoming with
    | [] => put name there root
    | _ => put name (.table there.tableOrigin (mergeAll there.entries incoming)) root
  | .leaf origin value => put (Header.lowerName name) (.leaf origin value) root
  | .sequence origin items => put (Header.lowerName name) (.sequence origin items) root
termination_by structural v => v

/-- Entries after others have arrived, one after another. -/
def mergeAll (root : List (String × Value)) : List (String × Value) → List (String × Value)
  | [] => root
  | (name, v) :: rest => mergeAll (merge root name v) rest
termination_by structural entries => entries

end

end Value

namespace KeyPath

/-- A step into a tree of values. -/
inductive Step where
  | name (name : String)
  | place (index : Int)
deriving DecidableEq

/-- Whether a character may stand in a name. -/
def isNameChar (c : Char) : Bool :=
  c.isAlphanum || c == ' ' || c == '_' || c == '-'

/-- Whether a character may stand around an index. -/
def isGap (c : Char) : Bool :=
  c == ' ' || c == '\t'

/-- An index, which has 64 bits and may have a minus sign. -/
def readIndex? (text : List Char) : Option Int :=
  if text.head? = some '+' then none else (Decimal.readInt? text).bind Yaml.Scalar.held?

/-- An index up to its closing bracket, and the rest. -/
def readPlace? (text : List Char) : Option (Int × List Char) :=
  let body := text.takeWhile (· != ']')
  let trimmed := ((body.dropWhile isGap).reverse.dropWhile isGap).reverse
  match text.dropWhile (· != ']') with
  | ']' :: rest => (readIndex? trimmed).map fun index => (index, rest)
  | _ => none

/-- The steps after the first name, as long as `fuel` lasts. -/
def readSteps? : Nat → List Char → Option (List Step)
  | 0, _ => none
  | _, [] => some []
  | fuel + 1, '.' :: rest =>
    let name := rest.takeWhile isNameChar
    if name.isEmpty then none
    else (readSteps? fuel (rest.dropWhile isNameChar)).map (.name (String.ofList name) :: ·)
  | fuel + 1, '[' :: rest =>
    (readPlace? rest).bind fun (index, rest) =>
      (readSteps? fuel rest).map (.place index :: ·)
  | _, _ => none

/-- The path that a key writes: a name, and steps from there. -/
def read? (key : String) : Option (List Step) :=
  let text := key.toList
  let name := text.takeWhile isNameChar
  if name.isEmpty then none
  else
    (readSteps? (text.length + 1) (text.dropWhile isNameChar)).map
      (.name (String.ofList name) :: ·)

/-- The greatest place that a sequence is filled up to. -/
def lastPlace : Int :=
  16777215

/-- The items of a sequence with one changed; places before it are filled, and a negative index
counts from the end, but not further than to the first item. -/
def changeItem (items : List Value) (index : Int) (f : Value → Except SettingsError Value) :
    Except SettingsError (List Value) :=
  let place := if index < 0 then items.length + index else index
  if place < 0 then .error .placeTooLow
  else if lastPlace < place then .error .placeTooHigh
  else
    let place := place.toNat
    let items := items ++ List.replicate (place + 1 - items.length) Value.absent
    (f (items.getD place Value.absent)).map fun v => items.set place v

/-- The tree after a value has arrived at the end of a path.  What stands in the way of a step
is replaced. -/
def set (v : Value) : List Step → Value → Except SettingsError Value
  | [], _ => .ok v
  | [.name name], tree => .ok (.table tree.tableOrigin (Value.merge tree.entries name v))
  | .name name :: path, tree =>
    let name := Header.lowerName name
    let there := (Value.lookup name tree.entries).getD Value.absent
    (set v path there).map fun w => .table tree.tableOrigin (Value.put name w tree.entries)
  | .place index :: path, .sequence origin items =>
    (changeItem items index fun there => set v path there).map (.sequence origin)
  | .place index :: path, _ =>
    (changeItem [] index fun there => set v path there).map (.sequence none)

/-- The entries at the top after a value has arrived under a key. -/
def arrive (root : List (String × Value)) (key : String) (v : Value) :
    Except SettingsError (List (String × Value)) :=
  match read? key with
  | some path => (set v path (.table none root)).map Value.entries
  | none => .ok (Value.merge root key v)

/-- The entries at the top after all entries of a source have arrived. -/
def arriveAll (root : List (String × Value)) :
    List (String × Value) → Except SettingsError (List (String × Value))
  | [] => .ok root
  | (key, v) :: rest =>
    match arrive root key v with
    | .error e => .error e
    | .ok root => arriveAll root rest

end KeyPath
end Admission
