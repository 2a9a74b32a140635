import Fanout.Service.Run

/-! Submitting a job: it runs once, on the node of the target or on one that is
drawn from its candidates. -/
namespace Fanout

/-- The candidates that the draw is made from: those that are members, or all of
them when none is. -/
def drawPool (view : View) (candidates : List Node) : List Node :=
  let alive := candidates.filter (view.has ·.id)
  if alive.isEmpty then candidates else alive

/-- The element that a draw gives: any element for some draw, and none only when
there are no elements. -/
def drawn? {α : Type} (draw : Nat) (xs : List α) : Option α := xs[draw % xs.length]?

namespace Service

/-- The node that a target gives for a draw. -/
def select (view : View) (draw : Nat) : JobTarget → Except ServiceError Node
  | .node node => .ok node
  | .anyNode [] => .error noNodes
  | .anyNode candidates =>
    match drawn? draw (drawPool view candidates) with
    | some node => .ok node
    | none => .error (.internal "no candidate node selected")

/-- Runs a job once. The job is checked first, then the topology is read, and then
the target is looked at; no other node is tried when the one selected fails. -/
def submit (s : Service) (target : JobTarget) (job : JobDescriptor) (draw : Nat)
    (w : Journal) : RunResult × Journal :=
  match job.validate with
  | .error violation => (.error (.domain violation), w)
  | .ok () =>
    let (view, w) := s.readTopology w
    match select view draw target with
    | .error e => (.error e, w)
    | .ok node => s.runOne view job node w

end Service

end Fanout
