import Admission.Settings.KeyPath
import Admission.Yaml.Document

/-!
# Sources of settings

A file of the given name, or of that name with an ending, and then the environment.  What the
program can see of its surroundings is a value.

* `Surroundings.find?` — the file that a path names, and the name by which it is reported;
* `Source.ofText` — the entries of a text;
* `Source.ofEnvironment` — the entries of the variables with the program's prefix.
-/

namespace Admission

/-- The working directory, the files under their full paths, and the environment. -/
structure Surroundings where
  directory : String
  files : List (String × String)
  environment : List (String × String)

namespace Surroundings

/-- The names along a path; those that stay in place are left out. -/
def names (path : List Char) : List (List Char) :=
  (path.splitOn '/').filter fun name => !name.isEmpty && name != ['.']

/-- The name that leads to the directory outside. -/
def outside : List Char :=
  ['.', '.']

/-- A path from the root. -/
def full (s : Surroundings) (path : String) : String :=
  if path.toList.head? = some '/' then path else s.directory ++ "/" ++ path

/-- Whether there is a directory where names lead: the working directory, one of a file, or one
outside of these. -/
def isDirectory (s : Surroundings) (place : List (List Char)) : Bool :=
  place.isPrefixOf (names s.directory.toList)
    || s.files.any fun (name, _) => place.isPrefixOf (names name.toList).dropLast

/-- Where names lead from a place; all but the last must be those of directories. -/
def follow? (s : Surroundings) (place : List (List Char)) :
    List (List Char) → Option (List (List Char))
  | [] => some place
  | [name] => some (if name = outside then place.dropLast else place ++ [name])
  | name :: rest =>
    if name = outside then follow? s place.dropLast rest
    else if s.isDirectory (place ++ [name]) then follow? s (place ++ [name]) rest
    else none

/-- Where a path leads. -/
def place? (s : Surroundings) (path : String) : Option (List (List Char)) :=
  s.follow? [] (names (s.full path).toList)

/-- Whether a path can be that of a file. -/
def endsInName (path : String) : Bool :=
  match (path.toList.splitOn '/').getLast? with
  | some name => !name.isEmpty && name != ['.'] && name != outside
  | none => false

/-- The file of a path. -/
def file? (s : Surroundings) (path : String) : Option String :=
  match endsInName path, s.place? path with
  | true, some place => (s.files.find? fun (name, _) => s.place? name == some place).map Prod.snd
  | _, _ => none

/-- A path without what stays in place at its end: slashes, and points that stand alone. -/
def trim (path : List Char) : List Char :=
  let parts := (path.splitOn '/').reverse.dropWhile fun name => name.isEmpty || name == ['.']
  ['/'].intercalate parts.reverse

/-- The paths tried for a path: itself, and with an ending if it has a name to append it to. -/
def candidates (s : Surroundings) (path : String) : List String :=
  let path := s.full path
  let base := String.ofList (trim path.toList)
  path :: if endsInName base then [base ++ ".yaml", base ++ ".yml"] else []

/-- How to reach names from a directory. -/
def relative : List (List Char) → List (List Char) → List (List Char)
  | d :: directory, n :: path =>
    if d = n then relative directory path
    else (d :: directory).map (fun _ => outside) ++ n :: path
  | directory, path => directory.map (fun _ => outside) ++ path

/-- The name by which a path is reported: how to reach it from the working directory. -/
def report (s : Surroundings) (path : String) : String :=
  String.ofList
    (['/'].intercalate (relative (names s.directory.toList) (names (s.full path).toList)))

/-- The file that a path names, and the name by which it is reported. -/
def find? (s : Surroundings) (path : String) : Option (String × String) :=
  (s.candidates path).findSome? fun candidate =>
    (s.file? candidate).map fun text => (s.report candidate, text)

end Surroundings

namespace Source

/-- The entries of a text.  A text without a document has none; of several documents, or of one
that is no mapping, there is no reading. -/
def ofText (origin : Option Origin) (text : String) :
    Except SettingsError (List (String × Value)) :=
  match Yaml.read? text with
  | some [] => .ok []
  | some [document] =>
    match Value.ofNode origin document with
    | .error e => .error e
    | .ok (.table _ entries) => .ok entries
    | .ok _ => .error .unreadable
  | _ => .error .unreadable

/-- The entries of the file that a path names. -/
def ofFile (s : Surroundings) (path : String) : Except SettingsError (List (String × Value)) :=
  match s.find? path with
  | some (name, text) => ofText (some (.file name)) text
  | none => .error (.notFound path)

/-- How the names of the program's variables begin, in lower case. -/
def variablePrefix : List Char :=
  "tollgate__".toList

/-- A name with each pair of underscores made a point. -/
def dotted : List Char → List Char
  | '_' :: '_' :: rest => '.' :: dotted rest
  | c :: rest => c :: dotted rest
  | [] => []

/-- The key of a variable with the program's prefix, in any case. -/
def variableKey? (name : String) : Option String :=
  let lower := (Header.lowerName name).toList
  if lower.take variablePrefix.length = variablePrefix then
    some (String.ofList (dotted (lower.drop variablePrefix.length)))
  else none

/-- What the value of a variable looks like: a truth value in any case, an integer, a real
number, or text. -/
def variableValue (text : String) : Leaf :=
  match Header.lowerName text with
  | "true" => .truth true
  | "false" => .truth false
  | _ =>
    match (Decimal.readInt? text.toList).bind Yaml.Scalar.held? with
    | some z => .integer z
    | none =>
      match Decimal.readBinary64? text.toList with
      | some x => .real x
      | none => .text text

/-- The entries of the variables with the program's prefix. -/
def ofEnvironment (environment : List (String × String)) : List (String × Value) :=
  environment.filterMap fun (name, text) =>
    (variableKey? name).map fun key => (key, .leaf (some .environment) (variableValue text))

end Source
end Admission
