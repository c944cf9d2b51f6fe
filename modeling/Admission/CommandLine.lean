import Admission.Settings.Basic
import Admission.Text.Terminal

/-!
# The command line

Arguments are read from left to right.  An option may wait for its value; whatever comes next is
that value unless it begins with a hyphen, and a waiting option is settled before the next one
is looked at.  Options come over the settings that are loaded.

* `CommandLine.parse` — what the arguments ask for;
* `Options.apply` — settings with the options over them.
-/

namespace Admission

/-- Why arguments are refused. -/
inductive UsageError where
  | invalidValue
  | valueValidation
  | unknownArgument
  | argumentConflict
  | tooManyValues
deriving DecidableEq

/-- The name of a refusal. -/
def UsageError.text : UsageError → String
  | .invalidValue => "InvalidValue"
  | .valueValidation => "ValueValidation"
  | .unknownArgument => "UnknownArgument"
  | .argumentConflict => "ArgumentConflict"
  | .tooManyValues => "TooManyValues"

/-- What the options say. -/
structure Options where
  config : Option String
  listen : Option SocketAddress
  rate : Option Binary64
  burst : Option UInt32
  expiresInSecs : Option Nat
  logJson : Bool
deriving DecidableEq

namespace Options

/-- No options. -/
def blank : Options :=
  ⟨none, none, none, none, none, false⟩

/-- Settings with the options over them. -/
def apply (o : Options) (s : Settings) : Settings where
  listen := o.listen.getD s.listen
  limiter := { s.limiter with
    rate := o.rate.getD s.limiter.rate
    burst := o.burst.getD s.limiter.burst
    expiresInSecs := o.expiresInSecs.getD s.limiter.expiresInSecs }

end Options

namespace CommandLine

/-- The options that take a value. -/
inductive Valued where
  | config
  | listen
  | rate
  | burst
  | expiresInSecs
deriving DecidableEq

/-- The options that take none. -/
inductive Switch where
  | logJson
  | help
  | version
deriving DecidableEq

/-- The options that take a value, by their names. -/
def valuedNames : List (String × Valued) :=
  [("config", .config), ("listen", .listen), ("rate", .rate), ("burst", .burst),
    ("expires-in-secs", .expiresInSecs)]

/-- The options that take none, by their names. -/
def switchNames : List (String × Switch) :=
  [("log-json", .logJson), ("help", .help), ("version", .version)]

/-- Why reading the arguments ends early. -/
inductive Stop where
  | help
  | version
  | refused (cause : UsageError)
deriving DecidableEq

/-- The options so far, and one that waits for its value or to be settled with it. -/
structure Parsing where
  options : Options
  waiting : Option (Valued × Option String)

/-- Options with a value that has been read, unless there was one before or it has not been
read. -/
def settle {α : Type} (earlier : Option α) (value : Option α) (keep : Option α → Options) :
    Except Stop Options :=
  if earlier.isSome then .error (.refused .argumentConflict)
  else if value.isSome then .ok (keep value)
  else .error (.refused .valueValidation)

/-- An integer that fits in 32 bits without a sign. -/
def readBurst? (text : List Char) : Option UInt32 :=
  (Decimal.readInt? text).bind fun z =>
    if 0 ≤ z ∧ z < 4294967296 then some (UInt32.ofNat z.toNat) else none

/-- Options with a value.  A path may not be empty. -/
def accept (o : Options) (option : Valued) (text : String) : Except Stop Options :=
  match option with
  | .config =>
    if o.config.isSome then .error (.refused .argumentConflict)
    else if text.isEmpty then .error (.refused .invalidValue)
    else .ok { o with config := some text }
  | .listen => settle o.listen (SocketAddress.ofText? text) fun v => { o with listen := v }
  | .rate => settle o.rate (Decimal.readBinary64? text.toList) fun v => { o with rate := v }
  | .burst => settle o.burst (readBurst? text.toList) fun v => { o with burst := v }
  | .expiresInSecs =>
    settle o.expiresInSecs (Decimal.readNat? Located.greatest64 text.toList) fun v =>
      { o with expiresInSecs := v }

namespace Parsing

/-- Settles a waiting option; one without a value is refused. -/
def settled (p : Parsing) : Except Stop Parsing :=
  match p.waiting with
  | none => .ok p
  | some (_, none) => .error (.refused .invalidValue)
  | some (option, some text) => (accept p.options option text).map fun o => ⟨o, none⟩

/-- An option that takes a value: attached to it, or still to come. -/
def valued (p : Parsing) (option : Valued) (attached : Option String) : Except Stop Parsing := do
  let p ← p.settled
  match attached with
  | some text => return ⟨← accept p.options option text, none⟩
  | none => return ⟨p.options, some (option, none)⟩

/-- An option that takes no value. -/
def switch (p : Parsing) (s : Switch) : Except Stop Parsing := do
  let p ← p.settled
  match s with
  | .help => .error .help
  | .version => .error .version
  | .logJson =>
    if p.options.logJson then .error (.refused .argumentConflict)
    else return ⟨{ p.options with logJson := true }, none⟩

/-- An argument after two hyphens: a name, and a value after an equals sign. -/
def long (p : Parsing) (text : List Char) : Except Stop Parsing :=
  let name := String.ofList (text.takeWhile (· != '='))
  let attached := match text.dropWhile (· != '=') with
    | _ :: value => some (String.ofList value)
    | [] => none
  match valuedNames.lookup name, switchNames.lookup name with
  | some option, _ => p.valued option attached
  | none, some s =>
    if attached.isSome then .error (.refused .tooManyValues) else p.switch s
  | none, none => .error (.refused .unknownArgument)

/-- An argument after one hyphen: a letter, and the value of the option if it takes one. -/
def short (p : Parsing) (letter : Char) (rest : List Char) : Except Stop Parsing :=
  match letter with
  | 'c' =>
    p.valued .config (match rest with
      | [] => none
      | '=' :: value => some (String.ofList value)
      | value => some (String.ofList value))
  | 'h' => p.switch .help
  | 'V' => p.switch .version
  | _ => .error (.refused .unknownArgument)

/-- An argument that is no option: the value of one that waits for it. -/
def word (p : Parsing) (text : String) : Except Stop Parsing :=
  match p.waiting with
  | some (option, none) => .ok { p with waiting := some (option, some text) }
  | _ => .error (.refused .unknownArgument)

/-- One argument. -/
def argument (p : Parsing) (text : String) : Except Stop Parsing :=
  match text.toList with
  | '-' :: '-' :: rest => p.long rest
  | '-' :: letter :: rest => p.short letter rest
  | _ => p.word text

end Parsing

/-- Reads arguments; after two hyphens alone there may be none. -/
def readArguments (p : Parsing) : List String → Except Stop Options
  | [] => p.settled.map Parsing.options
  | text :: rest =>
    if text = "--" then
      if rest.isEmpty then p.settled.map Parsing.options
      else .error (.refused .unknownArgument)
    else
      match p.argument text with
      | .error stop => .error stop
      | .ok p => readArguments p rest

/-- The variable that names a configuration file if no option does. -/
def configVariable : String :=
  "TOLLGATE_CONFIG"

/-- What the arguments ask for. -/
def parse (environment : List (String × String)) (arguments : List String) :
    Except Stop Options := do
  let o ← readArguments ⟨.blank, none⟩ arguments
  match o.config, environment.lookup configVariable with
  | none, some path => accept o .config path
  | _, _ => return o

/-! ## What it tells about itself -/

/-- The version. -/
def version : String :=
  "0.1.0"

/-- The answer to a request for the version. -/
def versionText : String :=
  "tollgate " ++ version ++ "\n"

/-- An option and what it is for on the lines after it. -/
def helpEntry (option about : String) : String :=
  let margin := "          "
  let lines := (about.toList.splitOn '\n').map fun line => margin ++ String.ofList line ++ "\n"
  "  " ++ option ++ "\n" ++ String.join lines

/-- The answer to a request for help.  It shows the value of the variable for the configuration
file, but nothing that steers a terminal. -/
def helpText (environment : List (String × String)) : String :=
  let current := (environment.lookup configVariable).getD ""
  Text.withoutControls
    ("Per-identifier token-bucket admission control middleware for HTTP services\n\n"
      ++ "Usage: tollgate [OPTIONS]\n\nOptions:\n"
      ++ helpEntry "-c, --config <CONFIG>"
        ("Path to a YAML configuration file [env: " ++ configVariable ++ "=" ++ current ++ "]")
      ++ helpEntry "    --listen <LISTEN>" "Address to listen on"
      ++ helpEntry "    --rate <RATE>" "Tokens added per second for each identifier"
      ++ helpEntry "    --burst <BURST>" "Maximum tokens per identifier"
      ++ helpEntry "    --expires-in-secs <EXPIRES_IN_SECS>"
        "Seconds an identifier may stay idle before it is forgotten"
      ++ helpEntry "    --log-json" "Emit logs as JSON"
      ++ helpEntry "-h, --help" "Print help"
      ++ helpEntry "-V, --version" "Print version")

end CommandLine
end Admission
