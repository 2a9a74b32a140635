import Fanout.Service.Run

/-! What a run on one node comes to, in closed form. Beginning a run and ending it
never fail: every transition of the status is one that its state allows. So a run
always ends with a record, and what stands in the record depends only on the view,
the node and the journal that the run began with, the time of its end apart. -/
namespace Fanout

/-- The state in which an outcome leaves a job that has run. -/
def Outcome.endState : Outcome → JobState
  | .ok _ => .completed
  | .error .canceled => .canceled
  | .error _ => .failed

/-- The call that a record tells of: none without a route, and otherwise a call of
that route under the job id of the record. -/
def Dispatcher.callOf (d : Dispatcher) (e : Execution) : Option Call :=
  match e.route with
  | none => none
  | some .localNode => some ⟨.localNode, d.localId, e.status.id⟩
  | some .remoteNode => some ⟨.remoteNode, e.node.id, e.status.id⟩

/-- The record of a run whose dispatch has been answered. -/
def Pending.record (run : Pending) (now : Millis) : Execution where
  node := run.node
  route := some run.route
  status := { run.status with state := Outcome.endState run.outcome, finishedAt := some now }
  outcome := run.outcome

namespace Service

variable (s : Service) (view : View) (job : JobDescriptor) (node : Node) (w : Journal)

/-- The record of a run on a node that is no member. -/
def departedRecord : Execution where
  node := node
  route := none
  status := ⟨s.ids w.idsMade, .failed, s.clock w.readings, none, some (s.clock (w.readings + 1))⟩
  outcome := .error (.nodeLeft node.id)

/-- The run on a member after the job was handed over. -/
def memberRun : Pending where
  node := node
  route := routeTo view node
  status := ⟨s.ids w.idsMade, .executing, s.clock w.readings, some (s.clock (w.readings + 1)), none⟩
  call := s.dispatcher.call (dispatchOf (routeTo view node) node (s.ids w.idsMade))
  outcome := s.dispatcher.answer w.calls (dispatchOf (routeTo view node) node (s.ids w.idsMade)) job

/-- What the beginning of a run leads to. -/
def beginning : Begun :=
  if view.has node.id then .dispatched (s.memberRun view job node w)
  else .settled (.ok (s.departedRecord node w))

/-- The record of a run that began with a journal and, if it was dispatched, ended at
a time. -/
def runRecord (now : Millis) : Execution :=
  if view.has node.id then (s.memberRun view job node w).record now
  else s.departedRecord node w

/-- A run on a node that is no member ends as it begins, without a call. -/
theorem begin_departed (departed : view.has node.id = false) :
    s.beginRun view job node w =
      (s.beginning view job node w,
        { w with idsMade := w.idsMade + 1, readings := w.readings + 2 }) := by
  simp only [beginRun, beginning, departed]
  rfl

theorem begin_member (member : view.has node.id = true) :
    s.beginRun view job node w =
      (s.beginning view job node w,
        { idsMade := w.idsMade + 1, readings := w.readings + 2,
          effects := w.effects ++ [.callBegun (s.memberRun view job node w).call] }) := by
  simp only [beginRun, beginning, member]
  rfl

variable {s} in
/-- A job that runs can end in each of the three ways. -/
theorem conclude_executing {status : JobStatus} (running : status.state = .executing)
    (outcome : Outcome) (now : Millis) :
    conclude status outcome now =
      .ok { status with state := Outcome.endState outcome, finishedAt := some now } := by
  rcases outcome with error | value
  · cases error <;>
      simp [conclude, JobStatus.fail, JobStatus.cancel, running, JobState.isFinal,
        Outcome.endState]
  · simp [conclude, JobStatus.complete, running, Outcome.endState]

theorem finish_result {run : Pending} (running : run.status.state = .executing) :
    (s.finishRun run w).1 = .ok (run.record (s.clock w.readings)) := by
  simp only [finishRun, readClock, Journal.record, conclude_executing running]
  rfl

variable {s w} in
/-- The end of a run that was dispatched is one reading of the clock, and the end of
its call. -/
theorem finish_journal {run : Pending} {result : RunResult} {later : Journal}
    (finishes : s.finishRun run w = (result, later)) :
    later = { w with readings := w.readings + 1
                     effects := w.effects ++ [.callEnded run.call] } := by
  simp only [finishRun, readClock, Journal.record] at finishes
  split at finishes <;>
    · cases finishes
      rfl

theorem call_of_record (now : Millis) :
    s.dispatcher.callOf ((s.memberRun view job node w).record now) =
      some (s.memberRun view job node w).call := by
  simp only [Dispatcher.callOf, Pending.record, memberRun]
  cases routeTo view node <;> rfl

/-- Where a record says the job was handed over: nowhere when the node is no member,
and otherwise by the route to the node. -/
theorem run_record_route (now : Millis) :
    (s.runRecord view job node w now).route =
      if view.has node.id then some (routeTo view node) else none := by
  unfold runRecord
  split <;> rfl

theorem run_record_node (now : Millis) : (s.runRecord view job node w now).node = node := by
  unfold runRecord
  split <;> rfl

theorem run_record_id (now : Millis) :
    (s.runRecord view job node w now).status.id = s.ids w.idsMade := by
  unfold runRecord
  split <;> rfl

end Service

end Fanout
