import Fanout.Service.Schedule

/-! Broadcasting a job: it runs once on every distinct node of the target, and what
happens on one node is recorded and never refuses the request. -/
namespace Fanout

/-- Why a broadcast has no report. -/
inductive BroadcastFailure where
  /-- The request is refused. -/
  | refused (error : ServiceError)
  /-- The limit asks for more permits than there can be, and the program stops. -/
  | tooManyPermits

/-- The nodes without those whose id was seen before, in the list or earlier. -/
def firstHandles (seen : List NodeId) : List Node → List Node
  | [] => []
  | n :: rest =>
    if n.id ∈ seen then firstHandles seen rest else n :: firstHandles (n.id :: seen) rest

/-- The first handle on every node, in order. -/
def distinctNodes (nodes : List Node) : List Node := firstHandles [] nodes

/-- The records of runs that have all ended with one, or else the first error. -/
def collect : List RunResult → Except ServiceError (List Execution)
  | [] => .ok []
  | .error e :: _ => .error e
  | .ok execution :: rest => (collect rest).map (execution :: ·)

namespace Service

/-- The outcome of a broadcast to no node. -/
def broadcastNone (s : Service) (kind : BroadcastKind) :
    Except BroadcastFailure BroadcastReport :=
  match s.config.emptyPolicy with
  | .reject => .error (.refused noNodes)
  | .allow => .ok ⟨kind, []⟩

/-- The outcome of a broadcast to some nodes, after the topology was read. -/
def broadcastSome (s : Service) (kind : BroadcastKind) (view : View) (job : JobDescriptor)
    (nodes : List Node) (w : Journal) : Except BroadcastFailure BroadcastReport × Journal :=
  if exceedsPermits s.config.maxParallel then (.error .tooManyPermits, w)
  else
    let (results, w) := s.runAll view job s.config.maxParallel nodes w
    match collect results with
    | .error e => (.error (.refused e), w)
    | .ok executions => (.ok ⟨kind, executions⟩, w)

/-- Runs a job on every distinct node of a target. The job is checked first, then
the target, and only then is the topology read. -/
def broadcast (s : Service) (target : BroadcastTarget Node) (job : JobDescriptor)
    (w : Journal) : Except BroadcastFailure BroadcastReport × Journal :=
  match job.validate with
  | .error violation => (.error (.refused (.domain violation)), w)
  | .ok () =>
    match distinctNodes target.nodes with
    | [] => (s.broadcastNone target.kind, w)
    | node :: rest =>
      let (view, w) := s.readTopology w
      s.broadcastSome target.kind view job (node :: rest) w

end Service

end Fanout
