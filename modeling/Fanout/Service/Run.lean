import Fanout.Service.Basic

/-! The run of a job on one node. It begins with a fresh id and a reading of the
clock. A node that is no member fails at once, without a dispatch; for a member
the job is handed over, and the run ends with another reading when the dispatcher
has answered. -/
namespace Fanout

/-- A run whose dispatch has not been answered yet. -/
structure Pending where
  node : Node
  route : Route
  status : JobStatus
  call : Call
  /-- What the dispatcher is going to answer. -/
  outcome : Outcome

/-- The end of a run. -/
abbrev RunResult := Except ServiceError Execution

/-- What the beginning of a run leads to. -/
inductive Begun where
  | settled (result : RunResult)
  | dispatched (run : Pending)

namespace Service

/-- The route to a member. -/
def routeTo (view : View) (node : Node) : Route :=
  if node.id = view.localId then .localNode else .remoteNode

/-- The dispatch of a job to a node by a route. -/
def dispatchOf (route : Route) (node : Node) (job : JobId) : Dispatch :=
  match route with
  | .localNode => .toLocal job
  | .remoteNode => .toRemote node job

/-- Ends a run on a node that is no member. -/
def settleDeparted (s : Service) (node : Node) (status : JobStatus) (w : Journal) :
    RunResult × Journal :=
  let (now, w) := s.readClock w
  match status.fail now with
  | .error violation => (.error (.domain violation), w)
  | .ok status => (.ok ⟨node, none, status, .error (.nodeLeft node.id)⟩, w)

/-- Hands the job over to a member. -/
def handOver (s : Service) (view : View) (job : JobDescriptor) (node : Node)
    (status : JobStatus) (w : Journal) : Begun × Journal :=
  let route := routeTo view node
  let (now, w) := s.readClock w
  match status.start now with
  | .error violation => (.settled (.error (.domain violation)), w)
  | .ok status =>
    let dispatch := dispatchOf route node status.id
    let call := s.dispatcher.call dispatch
    let outcome := s.dispatcher.answer w.calls dispatch job
    (.dispatched ⟨node, route, status, call, outcome⟩, w.record (.callBegun call))

/-- Begins the run of a job on a node. -/
def beginRun (s : Service) (view : View) (job : JobDescriptor) (node : Node) (w : Journal) :
    Begun × Journal :=
  let (id, w) := s.makeId w
  let (created, w) := s.readClock w
  let status := JobStatus.queued id created
  if view.has node.id then s.handOver view job node status w
  else
    let (result, w) := s.settleDeparted node status w
    (.settled result, w)

/-- The status after an outcome. -/
def conclude (status : JobStatus) (outcome : Outcome) (now : Millis) :
    Except Violation JobStatus :=
  match outcome with
  | .ok _ => status.complete now
  | .error .canceled => status.cancel now
  | .error _ => status.fail now

/-- Ends a run whose dispatch has been answered. -/
def finishRun (s : Service) (run : Pending) (w : Journal) : RunResult × Journal :=
  let w := w.record (.callEnded run.call)
  let (now, w) := s.readClock w
  match conclude run.status run.outcome now with
  | .error violation => (.error (.domain violation), w)
  | .ok status => (.ok ⟨run.node, some run.route, status, run.outcome⟩, w)

/-- Runs a job on one node from its beginning to its end. -/
def runOne (s : Service) (view : View) (job : JobDescriptor) (node : Node) (w : Journal) :
    RunResult × Journal :=
  match s.beginRun view job node w with
  | (.settled result, w) => (result, w)
  | (.dispatched run, w) => s.finishRun run w

end Service

end Fanout
