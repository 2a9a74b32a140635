import Fanout.Dispatch.Behavior
import Fanout.Proofs.ExactlyOnce
import Fanout.Proofs.JobIds
import Fanout.Proofs.PastCalls
import Fanout.Proofs.RecordCoherence

/-! Recording dispatchers at work. Such a dispatcher runs what is handed to the local node
under an id of its own, which need not be the one that the topology has for it. Under this
key it looks for its last entry and answers by it, and under this key it logs the call. The
log only grows: each request adds one entry for every record that has a route, in the order
in which the runs began. -/
namespace Fanout

open FirstHandles

/-- The id under which a dispatcher runs what is handed over by a route. -/
def Route.key (route : Route) (localId : NodeId) (node : Node) : NodeId :=
  match route with
  | .localNode => localId
  | .remoteNode => node.id

/-- The job that a request is to run. -/
def Request.job? : Request → Option JobDescriptor
  | .broadcast _ job | .submit _ job _ => some job
  | .setTopology _ | .setConfig _ => none

variable {localId key : NodeId} {entries : List (NodeId × RecordedBehavior)} {s : Service}
  {job : JobDescriptor} {w later : Journal} {session : Session} {request : Request}

/-! ### Entries -/

end Fanout
