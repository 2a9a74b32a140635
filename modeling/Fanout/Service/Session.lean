import Fanout.Service.Broadcast
import Fanout.Service.Submit

/-! A service over its whole life: requests one after the other, among them those
that replace its topology or its configuration. -/
namespace Fanout

/-- A service and its journal. -/
structure Session where
  service : Service
  journal : Journal

/-- What can be asked of a service. -/
inductive Request where
  | broadcast (target : BroadcastTarget Node) (job : JobDescriptor)
  /-- A job to be run once, with the draw that is made if there are candidates. -/
  | submit (target : JobTarget) (job : JobDescriptor) (draw : Nat)
  | setTopology (source : TopologySource)
  | setConfig (config : Config)

/-- What a request is answered with. -/
inductive Answer where
  | broadcast (result : Except BroadcastFailure BroadcastReport)
  | submit (result : RunResult)
  | setTopology (result : Except ServiceError Unit)
  | setConfig (config : Config)

namespace Session

/-- A service that has done nothing yet. -/
def fresh (service : Service) : Session := ⟨service, {}⟩

/-- Answers one request. A topology that is refused leaves the old one in place. -/
def perform (session : Session) : Request → Answer × Session
  | .broadcast target job =>
    let (result, w) := session.service.broadcast target job session.journal
    (.broadcast result, { session with journal := w })
  | .submit target job draw =>
    let (result, w) := session.service.submit target job draw session.journal
    (.submit result, { session with journal := w })
  | .setTopology source =>
    match source.load with
    | .error e => (.setTopology (.error e), session)
    | .ok topology =>
      (.setTopology (.ok ()), { session with service := { session.service with topology } })
  | .setConfig config =>
    (.setConfig config, { session with service := { session.service with config } })

/-- Answers requests in order, each with the effects it had. -/
def performAll (session : Session) : List Request → List (Answer × List Effect) × Session
  | [] => ([], session)
  | request :: rest =>
    let (answer, next) := session.perform request
    let (answers, last) := performAll next rest
    ((answer, next.journal.since session.journal) :: answers, last)

end Session

end Fanout
