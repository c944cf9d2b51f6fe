import Admission.Error
import Admission.Http
import Admission.Json.Quoted

/-!
# Rejections

A rejection is what a client is told instead of an answer: a status and a message, and a detail
that only the log sees.

* `Rejection.response` — the response; it does not depend on the detail;
* `Rejection.describe` — the log's text, which ends in the detail.
-/

namespace Admission

/-- A refused request: what the client is told, and what only the log is told. -/
structure Rejection where
  status : Status
  message : String
  detail : Option String
deriving DecidableEq

namespace Rejection

/-- The identifier has used up its tokens. -/
def tooManyRequests : Rejection :=
  ⟨.tooManyRequests, "rate limit exceeded", none⟩

/-- The request has no identifier. -/
def forbidden (detail : String) : Rejection :=
  ⟨.forbidden, "error while extracting identifier", some detail⟩

/-- The store gives no decision. -/
def serviceUnavailable (detail : String) : Rejection :=
  ⟨.serviceUnavailable, "rate limiter unavailable", some detail⟩

/-- The response: the message as the only member of an object. -/
def response (r : Rejection) : Response :=
  ⟨r.status, [("content-type", "application/json")], Json.singleton "message" r.message⟩

/-- The text of a rejection in the log. -/
def describe (r : Rejection) : String :=
  "code=" ++ toString r.status.code ++ ", message=" ++ r.message
    ++ match r.detail with
      | some detail => ", internal=" ++ detail
      | none => ""

/-- The rejection of an identifier without tokens, unless a layer sets its own. -/
def ofDenial (_identifier : String) : Rejection :=
  tooManyRequests

/-- The rejection of an error, unless a layer sets its own. -/
def ofError : AdmissionError → Rejection
  | .identifier cause => forbidden cause.message
  | .store cause => serviceUnavailable cause.message

end Rejection
end Admission
