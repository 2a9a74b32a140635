import Fanout.Service.Schedule

/-! Every order in which the runs of a broadcast with a limit can come about. A run
waits, is granted a permit, begins, and ends, when it gives its permit back; what
it does to the journal is what the service does when it begins and ends a run. No
run is preferred: at any time, any run whose next step is possible may take it.
The turns of a schedule bring about one such order. -/
namespace Fanout

/-- How far a run has come. -/
inductive Stage where
  | waiting
  /-- It holds a permit and has done nothing yet. -/
  | granted
  /-- It has begun and still holds its permit. -/
  | begun (start : Begun)
  | ended (result : RunResult)

namespace Stage

/-- The permits a run holds. -/
def held : Stage → Nat
  | .granted | .begun _ => 1
  | _ => 0

/-- The calls of a run that have begun and not ended. -/
def openCalls : Stage → Nat
  | .begun (.dispatched _) => 1
  | _ => 0

end Stage

/-- A run, with a count of the ids it has made and all calls it has begun. -/
structure Lane where
  node : Node
  stage : Stage := .waiting
  idsMade : Nat := 0
  calls : List Call := []

/-- A run that has come to another stage, where it changed the journal. -/
def Lane.reach (lane : Lane) (stage : Stage) (before after : Journal) : Lane where
  node := lane.node
  stage := stage
  idsMade := lane.idsMade + (after.idsMade - before.idsMade)
  calls := lane.calls ++ Effect.calls (after.since before)

/-- The runs of a broadcast in target order, with the permits that are free. -/
structure Floor where
  free : Nat
  lanes : List Lane
  journal : Journal

namespace Floor

/-- All runs wait. There is at least one permit. -/
def entry (limit : Nat) (nodes : List Node) (w : Journal) : Floor where
  free := max limit 1
  lanes := nodes.map fun node => { node }
  journal := w

/-- The permits that runs hold together. -/
def held (floor : Floor) : Nat := floor.lanes.foldr (fun lane n => lane.stage.held + n) 0

/-- The calls that have begun and not ended. -/
def openCalls (floor : Floor) : Nat :=
  floor.lanes.foldr (fun lane n => lane.stage.openCalls + n) 0

/-- Every run has ended, with these results in target order. -/
def EndedWith (floor : Floor) (results : List RunResult) : Prop :=
  floor.lanes.map Lane.stage = results.map Stage.ended

end Floor

/-- What one run may do next, with so many permits free: how many are free
afterwards, what has become of the run, and the journal. A run that waits is never
turned away, as nobody closes the semaphore; see `ask_permit_eq`. -/
inductive LaneStep (s : Service) (view : View) (job : JobDescriptor) :
    Nat → Lane → Journal → Nat → Lane → Journal → Prop where
  | grant {free : Nat} {lane : Lane} {w : Journal} (waits : lane.stage = .waiting) :
      LaneStep s view job (free + 1) lane w free (lane.reach .granted w w) w
  | start {free : Nat} {lane : Lane} {w later : Journal} {begun : Begun}
      (granted : lane.stage = .granted)
      (begins : s.beginRun view job lane.node w = (begun, later)) :
      LaneStep s view job free lane w free (lane.reach (.begun begun) w later) later
  | settle {free : Nat} {lane : Lane} {w : Journal} {result : RunResult}
      (settled : lane.stage = .begun (.settled result)) :
      LaneStep s view job free lane w (free + 1) (lane.reach (.ended result) w w) w
  | finish {free : Nat} {lane : Lane} {w later : Journal} {run : Pending} {result : RunResult}
      (dispatched : lane.stage = .begun (.dispatched run))
      (finishes : s.finishRun run w = (result, later)) :
      LaneStep s view job free lane w (free + 1) (lane.reach (.ended result) w later) later

/-- A step hands a permit over or takes it back; none is lost. -/
theorem LaneStep.permits {s : Service} {view : View} {job : JobDescriptor} {free next : Nat}
    {lane moved : Lane} {w later : Journal}
    (step : LaneStep s view job free lane w next moved later) :
    next + moved.stage.held = free + lane.stage.held := by
  cases step with
  | grant waits => simp [Lane.reach, Stage.held, waits]
  | start granted begins => simp [Lane.reach, Stage.held, granted]
  | settle settled => simp [Lane.reach, Stage.held, settled]
  | finish dispatched finishes => simp [Lane.reach, Stage.held, dispatched]

/-- One run takes its next step. -/
inductive FloorStep (s : Service) (view : View) (job : JobDescriptor) : Floor → Floor → Prop where
  | lane {free next : Nat} {before after : List Lane} {lane moved : Lane} {w later : Journal}
      (step : LaneStep s view job free lane w next moved later) :
      FloorStep s view job ⟨free, before ++ lane :: after, w⟩
        ⟨next, before ++ moved :: after, later⟩

/-- What a broadcast may come to from its beginning, in any order of steps. -/
inductive Reachable (s : Service) (view : View) (job : JobDescriptor) (first : Floor) :
    Floor → Prop where
  | entry : Reachable s view job first first
  | step {floor next : Floor} (reached : Reachable s view job first floor)
      (taken : FloorStep s view job floor next) : Reachable s view job first next

end Fanout
