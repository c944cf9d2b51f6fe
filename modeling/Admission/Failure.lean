import Admission.Address.Reading
import Admission.Server
import Admission.Settings.Basic

/-!
# Failures

What ends an operation of the program: each failure is one of another part, and its text names
that part.
-/

namespace Admission

/-- Why an operation of the program failed. -/
inductive Failure where
  | config (cause : ConfigError)
  | settings (cause : SettingsError)
  | address
  | system (cause : SystemError)
deriving DecidableEq

namespace Failure

/-- The wording of a failure: the part it comes from, and that part's wording. -/
def message : Failure → String
  | .config cause => "Configuration error: " ++ cause.message
  | .settings cause => "Settings error: " ++ cause.message
  | .address => "Invalid address: " ++ SocketAddress.syntaxMessage
  | .system cause => "I/O error: " ++ cause.message

/-- What lies behind a failure, if there is more to it than its own wording. -/
def cause? : Failure → Option String
  | .config _ => none
  | .settings cause => some cause.message
  | .address => some SocketAddress.syntaxMessage
  | .system cause => some cause.message

/-- The lines of a text, each further in. -/
def indented (text : String) : String :=
  String.join ((text.toList.splitOn '\n').map fun line => "    " ++ String.ofList line ++ "\n")

/-- What the program says when it fails. -/
def report (f : Failure) : String :=
  "Error: " ++ f.message ++ "\n"
    ++ match f.cause? with
      | some cause => "\nCaused by:\n" ++ indented cause
      | none => ""

end Failure
end Admission
