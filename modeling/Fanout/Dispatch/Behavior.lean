import Fanout.Dispatch

/-! Dispatchers that follow a list of behaviors, one for each node id. Of several
entries for an id the last one counts. -/
namespace Fanout

/-- The last entry of a list for an id. -/
def lastOf? {β : Type} (entries : List (NodeId × β)) (id : NodeId) : Option β :=
  (entries.reverse.find? (·.1 == id)).map (·.2)

/-- What a recording dispatcher does with a job. -/
inductive RecordedBehavior where
  | echo
  | fail (message : String)
  | nodeLeft
  deriving DecidableEq, Repr

/-- The outcome of a recorded behavior on a node. -/
def RecordedBehavior.outcome (node : NodeId) (job : JobDescriptor) : RecordedBehavior → Outcome
  | .echo => .ok (.object [("args", job.args), ("node", .string node.text)])
  | .fail message => .error (.failed message)
  | .nodeLeft => .error (.nodeLeft node)

/-- A dispatcher that answers at once, by the last entry for the node it runs the
job on, and echoes the job where there is none. -/
def Dispatcher.recording (localId : NodeId) (entries : List (NodeId × RecordedBehavior)) :
    Dispatcher :=
  .keyed localId 0 fun node job => ((lastOf? entries node).getD .echo).outcome node job

/-- What a scripted dispatcher does with a job. -/
inductive ScriptedBehavior where
  | echo
  | fail (message : String)
  | cancel
  | classNotFound
  /-- Reports the given node as gone, or else the node it runs the job on. -/
  | nodeLeft (node : Option NodeId)
  deriving DecidableEq, Repr

/-- The outcome of a scripted behavior on a node. -/
def ScriptedBehavior.outcome (node : NodeId) (job : JobDescriptor) : ScriptedBehavior → Outcome
  | .echo => .ok (.object [
      ("args", job.args),
      ("class", .string job.className),
      ("node", .string node.text),
      ("units", .array (job.units.map .string))])
  | .fail message => .error (.failed message)
  | .cancel => .error .canceled
  | .classNotFound => .error (.classNotFound job.className)
  | .nodeLeft gone => .error (.nodeLeft (gone.getD node))

/-- A dispatcher whose calls pause before they answer by the script. -/
def Dispatcher.scripted (localId : NodeId) (pause : Nat) (default : ScriptedBehavior)
    (entries : List (NodeId × ScriptedBehavior)) : Dispatcher :=
  .keyed localId pause fun node job => ((lastOf? entries node).getD default).outcome node job

/-- A dispatcher that answers at once with the job, its class and the node. -/
def Dispatcher.echoing (localId : NodeId) : Dispatcher :=
  .keyed localId 0 fun node job => .ok (.object [
    ("args", job.args), ("job", .string job.className), ("node", .string node.text)])

end Fanout
