import Fanout.Dispatch
import Fanout.Service.Executor
import Fanout.Target
import Fanout.Topology

/-! The compute service: what it is wired to, what it is configured to do, what it
returns, and the journal of what it has used up and done so far. -/
namespace Fanout

/-- What a broadcast to no node does. -/
inductive EmptyPolicy where
  | allow
  | reject
  deriving DecidableEq, Repr

/-- The configuration of a service. -/
structure Config where
  emptyPolicy : EmptyPolicy := .allow
  /-- How many dispatches of one broadcast may run at a time; zero counts as one. -/
  maxParallel : Option Nat := none
  deriving DecidableEq, Repr

/-- The record of a job on one node. -/
structure Execution where
  node : Node
  /-- Where the job was handed over, if it was. -/
  route : Option Route
  status : JobStatus
  outcome : Outcome

/-- The job ended well. -/
def Execution.isSuccess (e : Execution) : Bool := e.status.state == .completed

/-- The records of a broadcast, in target order. -/
structure BroadcastReport where
  kind : BroadcastKind
  executions : List Execution

namespace BroadcastReport

/-- The record of a node. -/
def get? (report : BroadcastReport) (id : NodeId) : Option Execution :=
  report.executions.find? (·.node.id == id)

def size (report : BroadcastReport) : Nat := report.executions.length

/-- How many nodes ended well. -/
def succeeded (report : BroadcastReport) : Nat :=
  report.executions.countP Execution.isSuccess

/-- How many nodes did not end well. -/
def failed (report : BroadcastReport) : Nat := report.size - report.succeeded

end BroadcastReport

/-- What the service does that others can see. -/
inductive Effect where
  /-- It asks the topology for the local node. -/
  | readLocal
  /-- It asks the topology for all members. -/
  | readMembers
  /-- A call to the dispatcher begins. -/
  | callBegun (call : Call)
  /-- A call to the dispatcher has answered. -/
  | callEnded (call : Call)
  deriving DecidableEq, Repr

namespace Effect

/-- The call that begins, if one does. -/
def call? : Effect → Option Call
  | .callBegun call => some call
  | _ => none

/-- The calls among some effects, in order. -/
def calls (effects : List Effect) : List Call := effects.filterMap call?

/-- The most calls that have begun and not ended at one time, with so many open
before the effects. -/
def peak (opened : Nat) : List Effect → Nat
  | [] => opened
  | .callBegun _ :: rest => max opened (peak (opened + 1) rest)
  | .callEnded _ :: rest => max opened (peak (opened - 1) rest)
  | _ :: rest => peak opened rest

end Effect

/-- What a service has used up and done: job ids, clock readings, and its visible
effects, oldest first. -/
structure Journal where
  idsMade : Nat := 0
  readings : Nat := 0
  effects : List Effect := []

namespace Journal

/-- The journal with one more effect. -/
def record (w : Journal) (effect : Effect) : Journal :=
  { w with effects := w.effects ++ [effect] }

/-- All calls to the dispatcher so far. -/
def calls (w : Journal) : List Call := Effect.calls w.effects

/-- The effects that came after those of an earlier journal. -/
def since (w earlier : Journal) : List Effect := w.effects.drop earlier.effects.length

end Journal

/-- A compute service and what it is wired to. Ids and clock readings are given by
their number, counted from the first one ever taken. -/
structure Service where
  topology : Topology
  dispatcher : Dispatcher
  ids : Nat → JobId
  clock : Nat → Millis
  config : Config
  executor : Executor := .standard

/-- The topology as one request sees it. -/
structure View where
  localId : NodeId
  members : List NodeId

/-- The id belongs to a member. -/
def View.has (view : View) (id : NodeId) : Bool := view.members.contains id

namespace Service

/-- Takes the next job id. -/
def makeId (s : Service) (w : Journal) : JobId × Journal :=
  (s.ids w.idsMade, { w with idsMade := w.idsMade + 1 })

/-- Reads the clock. -/
def readClock (s : Service) (w : Journal) : Millis × Journal :=
  (s.clock w.readings, { w with readings := w.readings + 1 })

/-- Reads the topology: the local node first, then the members. -/
def readTopology (s : Service) (w : Journal) : View × Journal :=
  (⟨s.topology.localNode.id, s.topology.members.map Node.id⟩,
    (w.record .readLocal).record .readMembers)

end Service

/-- The refusal of a request that names no node. -/
def noNodes : ServiceError := .validation "nodes must not be empty"

end Fanout
