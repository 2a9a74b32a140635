import Fanout.ServiceError

/-! The errors that the program reports. An error has a message and a chain of
causes, the outermost first. -/
namespace Fanout.Console

/-- Why the program fails. -/
inductive Failure where
  /-- The topology file cannot be read, for the given reason. -/
  | unreadable (path reason : String)
  /-- The topology file holds no acceptable topology. -/
  | badTopology (error : ServiceError)
  /-- The node to submit to is not named. -/
  | namelessNode
  /-- The arguments of the job are no JSON text. -/
  | badArgs (fault : Json.Fault)
  | broadcastRefused (error : ServiceError)
  | submitRefused (error : ServiceError)
  deriving DecidableEq, Repr

/-- A refusal and, where it has one, its own cause. -/
def refusalCauses (error : ServiceError) : List String :=
  error.message ::
    match error with
    | .domain violation => [violation.message]
    | .serialization fault => [fault.message]
    | _ => []

namespace Failure

def message : Failure → String
  | .unreadable path _ => "Failed to read topology file " ++ path
  | .badTopology _ => "Invalid topology file"
  | .namelessNode => "Node id cannot be empty"
  | .badArgs _ => "Invalid JSON args"
  | .broadcastRefused _ => "Broadcast failed"
  | .submitRefused _ => "Submit failed"

def causes : Failure → List String
  | .unreadable _ reason => [reason]
  | .badTopology error | .broadcastRefused error | .submitRefused error => refusalCauses error
  | .namelessNode => []
  | .badArgs fault => [fault.message]

/-- The report of a failure over lines; several causes are numbered. -/
def report (failure : Failure) : String :=
  "Error: " ++ failure.message ++ "\n" ++
    match failure.causes with
    | [] => ""
    | [cause] => "\nCaused by:\n    " ++ cause ++ "\n"
    | causes => "\nCaused by:\n" ++ String.join ((causes.zip (List.range causes.length)).map
        fun (cause, i) => "    " ++ toString i ++ ": " ++ cause ++ "\n")

end Failure

end Fanout.Console
