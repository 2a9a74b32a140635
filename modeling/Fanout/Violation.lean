/-! The ways in which a request breaks a rule of the domain. -/
namespace Fanout

/-- A broken rule. -/
inductive Violation where
  /-- An argument that may not have the given value. -/
  | invalidArgument (name reason : String)
  /-- A job state that does not follow the present one. -/
  | invalidTransition (source target : String)
  /-- A value that is not acceptable. -/
  | invalidValue (reason : String)
  deriving DecidableEq, Repr

namespace Violation

/-- An argument that has to be there is not. -/
def nullArgument (name : String) : Violation :=
  .invalidArgument name "must not be null"

/-- The message for a broken rule. -/
def message : Violation → String
  | .invalidArgument name reason => "Invalid argument '" ++ name ++ "': " ++ reason
  | .invalidTransition source target =>
    "Invalid job state transition: " ++ source ++ " -> " ++ target
  | .invalidValue reason => "Validation error: " ++ reason

end Violation

end Fanout
