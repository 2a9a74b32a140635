import Fanout.Json.Fault
import Fanout.Violation

/-! The reasons for which the service answers a request with an error. -/
namespace Fanout

/-- Why a request is refused. -/
inductive ServiceError where
  /-- A rule of the domain is broken. -/
  | domain (violation : Violation)
  /-- The request itself is not acceptable. -/
  | validation (reason : String)
  /-- A text that has to be JSON of some shape is not. -/
  | serialization (fault : Json.Fault)
  /-- The topology is not acceptable. -/
  | config (reason : String)
  /-- The service could not do its work. -/
  | internal (reason : String)
  deriving DecidableEq, Repr

/-- The message for a refused request. -/
def ServiceError.message : ServiceError → String
  | .domain violation => "Domain error: " ++ violation.message
  | .validation reason => "Validation error: " ++ reason
  | .serialization fault => "Serialization error: " ++ fault.message
  | .config reason => "Configuration error: " ++ reason
  | .internal reason => "Internal error: " ++ reason

end Fanout
