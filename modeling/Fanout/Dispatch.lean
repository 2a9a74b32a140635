import Fanout.Job.Descriptor
import Fanout.Job.Status
import Fanout.Node

/-! Handing a job over to a node. A dispatch goes to the local node or to a remote
one; the dispatcher answers with the job's result or with an error, and keeps its
own idea of which id the local node has. -/
namespace Fanout

/-- Where a job was handed over. -/
inductive Route where
  | localNode
  | remoteNode
  deriving DecidableEq, Repr

namespace Route

def name : Route → String
  | .localNode => "LOCAL"
  | .remoteNode => "REMOTE"

def toJson (route : Route) : Json.Value := .string route.name

/-- The wire form of a route as text. -/
def encode (route : Route) : String := route.toJson.compact

end Route

/-- Why a node did not deliver a result. -/
inductive ExecutionError where
  | nodeLeft (id : NodeId)
  | classNotFound (className : String)
  | failed (message : String)
  | canceled
  deriving DecidableEq, Repr

/-- The message for a missing result. -/
def ExecutionError.message : ExecutionError → String
  | .nodeLeft id => "Node " ++ id.text ++ " has left the cluster"
  | .classNotFound className => "Job class not found: " ++ className
  | .failed message => "Job failed: " ++ message
  | .canceled => "Job canceled"

/-- What came of a job on one node. -/
abbrev Outcome := Except ExecutionError Json.Value

/-- One hand-over of a job under an id: to the local node, of which the dispatcher
is told nothing, or to a remote node by its handle. -/
inductive Dispatch where
  | toLocal (job : JobId)
  | toRemote (node : Node) (job : JobId)
  deriving Repr

/-- A hand-over as the dispatcher records it. -/
structure Call where
  route : Route
  node : NodeId
  job : JobId
  deriving DecidableEq, Repr

/-- A dispatcher. -/
structure Dispatcher where
  /-- The id under which it runs and records what is handed to the local node. -/
  localId : NodeId
  /-- How often every call pauses before it answers. -/
  pause : Nat
  /-- What a call answers, given the calls before it. -/
  answer : List Call → Dispatch → JobDescriptor → Outcome

namespace Dispatcher

/-- The node that a dispatch runs on, as the dispatcher sees it. -/
def key (d : Dispatcher) : Dispatch → NodeId
  | .toLocal _ => d.localId
  | .toRemote node _ => node.id

/-- The record of a dispatch. -/
def call (d : Dispatcher) : Dispatch → Call
  | .toLocal job => ⟨.localNode, d.localId, job⟩
  | .toRemote node job => ⟨.remoteNode, node.id, job⟩

/-- A dispatcher whose answers depend on the node it runs the job on and the job. -/
def keyed (localId : NodeId) (pause : Nat) (react : NodeId → JobDescriptor → Outcome) :
    Dispatcher where
  localId := localId
  pause := pause
  answer _ dispatch job :=
    match dispatch with
    | .toLocal _ => react localId job
    | .toRemote node _ => react node.id job

end Dispatcher

end Fanout
