import Fanout.Proofs.EndedRuns

/-! Handles without their names and addresses. A service looks at nothing but the id of a
handle, and if its dispatcher does so too, then each part of a broadcast commutes with
leaving the rest of the handles out: it comes to the same without it, and does the same to
the journal. So does a whole schedule, and so does every interleaving of the runs. -/
namespace Fanout

/-- The handle on the same node that knows the id alone. -/
def Node.bare (n : Node) : Node := .ofId n.id.text

/-- The record with nothing but the id of its node. -/
def Execution.bare (e : Execution) : Execution := { e with node := e.node.bare }

/-- The result with nothing but the id of its node. -/
def bareResult : RunResult → RunResult := Except.map Execution.bare

def Pending.bare (run : Pending) : Pending := { run with node := run.node.bare }

def Begun.bare : Begun → Begun
  | .settled result => .settled (bareResult result)
  | .dispatched run => .dispatched run.bare

def Holder.bare : Holder → Holder
  | .granted node => .granted node.bare
  | .paused left run => .paused left run.bare

def Progress.bare : Progress → Progress
  | .resting holder => .resting holder.bare
  | .ended result => .ended (bareResult result)

/-- The roster with bare handles, each run in its place. -/
def Roster.bare (roster : Roster) : Roster where
  waiting := roster.waiting.map (Prod.map Node.bare id)
  ready := roster.ready.map (Prod.map Holder.bare id)
  rested := roster.rested.map (Prod.map Holder.bare id)
  ended := roster.ended.map (Prod.map bareResult id)
  left := roster.left

/-- The dispatcher knows a node by its id: it answers the same for every handle on a node. -/
def Dispatcher.KnowsById (d : Dispatcher) : Prop :=
  ∀ (past : List Call) (node other : Node) (id : JobId) (job : JobDescriptor),
    node.id = other.id →
      d.answer past (.toRemote node id) job = d.answer past (.toRemote other id) job

variable {s : Service} {view : View} {job : JobDescriptor} {limit : Option Nat} {runs : Nat}
  {node : Node} {run : Pending} {holder : Holder} {place : Nat} {roster : Roster} {w : Journal}

@[simp] theorem bare_id (n : Node) : n.bare.id = n.id := rfl

/-! ### One run -/

/-- The job of a bare handle goes the same way, is recorded as the same call, and is
answered the same. -/
theorem member_run_bare (byId : s.dispatcher.KnowsById) :
    s.memberRun view job node.bare w = (s.memberRun view job node w).bare := by
  have route : Service.routeTo view node.bare = Service.routeTo view node := rfl
  simp only [Service.memberRun, Pending.bare, route, Pending.mk.injEq, true_and]
  cases Service.routeTo view node with
  | localNode => exact ⟨rfl, rfl⟩
  | remoteNode => exact ⟨rfl, byId w.calls node.bare node (s.ids w.idsMade) job rfl⟩

theorem beginning_bare (byId : s.dispatcher.KnowsById) :
    s.beginning view job node.bare w = (s.beginning view job node w).bare := by
  simp only [Service.beginning, bare_id, member_run_bare byId]
  split <;> rfl

/-- A run begins on a bare handle as on any other. -/
theorem begin_bare (byId : s.dispatcher.KnowsById) :
    s.beginRun view job node.bare w =
      ((s.beginRun view job node w).1.bare, (s.beginRun view job node w).2) := by
  cases member : view.has node.id with
  | false =>
    rw [s.begin_departed view job node w member, s.begin_departed view job node.bare w member,
      beginning_bare byId]
  | true =>
    rw [s.begin_member view job node w member, s.begin_member view job node.bare w member,
      beginning_bare byId, member_run_bare byId]
    rfl

/-- A run that was dispatched on a bare handle ends as on any other. -/
theorem finish_bare :
    s.finishRun run.bare w = (bareResult (s.finishRun run w).1, (s.finishRun run w).2) := by
  simp only [Service.finishRun, Pending.bare]
  split <;> rfl

theorem await_bare (pauses : Nat) :
    s.await pauses run.bare w = ((s.await pauses run w).1.bare, (s.await pauses run w).2) := by
  cases pauses with
  | zero => simp only [Service.await, finish_bare, Progress.bare]
  | succ left => rfl

theorem advance_bare (byId : s.dispatcher.KnowsById) :
    s.advance view job holder.bare w =
      ((s.advance view job holder w).1.bare, (s.advance view job holder w).2) := by
  cases holder with
  | paused left run => exact await_bare left
  | granted node =>
    simp only [Holder.bare, Service.advance, begin_bare byId]
    cases s.beginRun view job node w with
    | mk begun later =>
      cases begun with
      | settled result => rfl
      | dispatched run => exact await_bare s.dispatcher.pause

/-! ### The schedule -/

theorem place_result_bare (result : RunResult) (place : Nat) (ended : List (RunResult × Nat)) :
    placeResult (bareResult result) place (ended.map (Prod.map bareResult id)) =
      (placeResult result place ended).map (Prod.map bareResult id) := by
  induction ended with
  | nil => rfl
  | cons other rest ih =>
    simp only [List.map_cons, placeResult, Prod.map_snd, id_eq]
    split
    · rfl
    · rw [ih]
      rfl

theorem settle_bare (progress : Progress) :
    roster.bare.settle place progress.bare = (roster.settle place progress).bare := by
  cases progress with
  | resting holder => simp [Progress.bare, Roster.settle, Roster.bare]
  | ended result => simp [Progress.bare, Roster.settle, Roster.bare, place_result_bare]

theorem must_rest_bare : roster.bare.mustRest holder.bare = roster.mustRest holder := by
  cases holder <;> rfl

theorem charge_bare : roster.bare.charge holder.bare = (roster.charge holder).bare := by
  cases holder <;> rfl

theorem held_bare : roster.bare.held = roster.held := by simp [Roster.held, Roster.bare]

theorem grant_bare : roster.bare.grant? limit = (roster.grant? limit).map Roster.bare := by
  have waits : roster.bare.waiting = roster.waiting.map (Prod.map Node.bare id) := rfl
  rw [Roster.grant?, Roster.grant?, waits, held_bare, ask_permit_eq]
  cases roster.waiting with
  | nil => rfl
  | cons first rest =>
    cases permitFree limit roster.held with
    | false => rfl
    | true => simp [Roster.bare, Holder.bare]

theorem next_bare (executor : Executor) (allowance : Option Nat) :
    roster.bare.next? (executor.resume runs) allowance =
      (roster.next? (executor.resume runs) allowance).map
        (Prod.map (Prod.map Holder.bare id) Roster.bare) := by
  have resumed : executor.resume runs (roster.rested.map (Prod.map Holder.bare id)) =
      (executor.resume runs roster.rested).map (Prod.map Holder.bare id) := by
    simp only [Executor.resume]
    split
    · rfl
    · rw [List.map_reverse]
  cases ready : roster.ready with
  | cons first rest => simp [Roster.next?, Roster.bare, ready]
  | nil =>
    simp only [Roster.next?, Roster.bare, ready, List.map_nil, resumed]
    cases executor.resume runs roster.rested with
    | nil => rfl
    | cons first rest => simp [Roster.bare]

theorem attend_bare (byId : s.dispatcher.KnowsById) :
    s.attend view job holder.bare place roster.bare w =
      ((s.attend view job holder place roster w).1.bare,
        (s.attend view job holder place roster w).2) := by
  simp only [Service.attend, must_rest_bare, advance_bare byId, charge_bare, settle_bare]
  split
  · exact congrArg (·, w) (settle_bare (.resting holder))
  · rfl

theorem results_bare : roster.bare.results = roster.results.map bareResult := by
  simp [Roster.results, Roster.bare, Function.comp_def]

/-- A schedule of bare handles makes the same decisions, comes to the same, and does the
same. -/
theorem drive_bare (byId : s.dispatcher.KnowsById) (roster : Roster) (w : Journal) :
    s.drive view job limit runs roster.bare w =
      ((s.drive view job limit runs roster w).1.map bareResult,
        (s.drive view job limit runs roster w).2) := by
  induction roster, w using Service.drive.induct s view job limit runs with
  | case1 roster w next granted ih =>
    have bareGranted : roster.bare.grant? limit = some next.bare := by
      rw [grant_bare, granted]
      rfl
    rw [drive_grant bareGranted, drive_grant granted, ih]
  | case2 roster w ungranted done =>
    have bareUngranted : roster.bare.grant? limit = none := by
      rw [grant_bare, ungranted]
      rfl
    rw [drive_done bareUngranted (by rw [next_bare, done]; rfl), drive_done ungranted done,
      results_bare]
  | case3 roster w ungranted holder place next found after =>
    rename_i ih
    have bareUngranted : roster.bare.grant? limit = none := by
      rw [grant_bare, ungranted]
      rfl
    have bareFound : roster.bare.next? (s.executor.resume runs) (s.executor.allowance limit) =
        some ((holder.bare, place), next.bare) := by
      rw [next_bare, found]
      rfl
    rw [drive_carry bareUngranted bareFound, drive_carry ungranted found, attend_bare byId, ih]

theorem entry_bare (nodes : List Node) (left : Option Nat) :
    Roster.entry (nodes.map Node.bare) left = (Roster.entry nodes left).bare := by
  simp [Roster.entry, Roster.bare, List.zipIdx_map]

/-- The runs of bare handles come to the same, and do the same. -/
theorem run_all_bare (byId : s.dispatcher.KnowsById) (nodes : List Node) :
    s.runAll view job limit (nodes.map Node.bare) w =
      ((s.runAll view job limit nodes w).1.map bareResult,
        (s.runAll view job limit nodes w).2) := by
  simp only [Service.runAll, entry_bare, List.length_map, drive_bare byId]

/-! ### Every interleaving -/

def Stage.bare : Stage → Stage
  | .begun start => .begun start.bare
  | .ended result => .ended (bareResult result)
  | stage => stage

/-- The run on the bare handle. -/
def Lane.bare (lane : Lane) : Lane :=
  { lane with node := lane.node.bare, stage := lane.stage.bare }

/-- The floor with bare handles. -/
def Floor.bare (floor : Floor) : Floor := { floor with lanes := floor.lanes.map Lane.bare }

/-- Two runs that differ in names and addresses alone take the same steps. -/
theorem lane_step_bare {free next : Nat} {lane moved other : Lane} {later : Journal}
    (byId : s.dispatcher.KnowsById) (same : lane.bare = other.bare)
    (step : LaneStep s view job free lane w next moved later) :
    ∃ otherMoved, LaneStep s view job free other w next otherMoved later ∧
      moved.bare = otherMoved.bare := by
  obtain ⟨node, stage, ids, calls⟩ := lane
  obtain ⟨otherNode, otherStage, otherIds, otherCalls⟩ := other
  simp only [Lane.bare, Lane.mk.injEq] at same
  obtain ⟨nodes, stages, rfl, rfl⟩ := same
  cases step with
  | grant waits =>
    cases waits
    cases otherStage <;> simp only [Stage.bare, reduceCtorEq] at stages
    exact ⟨_, .grant rfl, by simp [Lane.bare, Lane.reach, nodes]⟩
  | @start _ _ _ _ begun granted begins =>
    cases granted
    cases otherStage <;> simp only [Stage.bare, reduceCtorEq] at stages
    have bareBegins : s.beginRun view job node.bare w =
        ((s.beginRun view job node w).1.bare, (s.beginRun view job node w).2) := begin_bare byId
    rw [nodes, begin_bare byId, begins] at bareBegins
    obtain ⟨starts, journals⟩ := Prod.mk.inj bareBegins
    refine ⟨_, .start rfl (Prod.ext rfl journals), ?_⟩
    simp [Lane.bare, Lane.reach, Stage.bare, nodes, starts]
  | @settle _ _ _ result settled =>
    cases settled
    cases otherStage with
    | begun otherStart =>
      cases otherStart with
      | settled otherResult =>
        simp only [Stage.bare, Begun.bare, Stage.begun.injEq, Begun.settled.injEq] at stages
        exact ⟨_, .settle rfl, by simp [Lane.bare, Lane.reach, Stage.bare, nodes, stages]⟩
      | dispatched otherRun => simp [Stage.bare, Begun.bare] at stages
    | waiting | granted | ended => simp [Stage.bare] at stages
  | @finish _ _ _ _ run result dispatched finishes =>
    cases dispatched
    cases otherStage with
    | begun otherStart =>
      cases otherStart with
      | settled otherResult => simp [Stage.bare, Begun.bare] at stages
      | dispatched otherRun =>
        simp only [Stage.bare, Begun.bare, Stage.begun.injEq, Begun.dispatched.injEq] at stages
        have bareFinishes : s.finishRun run.bare w =
            (bareResult (s.finishRun run w).1, (s.finishRun run w).2) := finish_bare
        rw [stages, finish_bare, finishes] at bareFinishes
        obtain ⟨results, journals⟩ := Prod.mk.inj bareFinishes
        refine ⟨_, .finish rfl (Prod.ext rfl journals), ?_⟩
        simp [Lane.bare, Lane.reach, Stage.bare, nodes, results]
    | waiting | granted | ended => simp [Stage.bare] at stages

/-- So do two floors. -/
theorem floor_step_bare {floor next other : Floor} (byId : s.dispatcher.KnowsById)
    (same : floor.bare = other.bare) (step : FloorStep s view job floor next) :
    ∃ otherNext, FloorStep s view job other otherNext ∧ next.bare = otherNext.bare := by
  obtain ⟨free, lanes, journal⟩ := other
  cases step with
  | @lane _ next before after lane moved w later step =>
    simp only [Floor.bare, Floor.mk.injEq, List.map_append, List.map_cons] at same
    obtain ⟨rfl, placed, rfl⟩ := same
    obtain ⟨otherBefore, rest, rfl, befores, placed⟩ := List.map_eq_append_iff.mp placed.symm
    obtain ⟨other, otherAfter, rfl, bareOther, afters⟩ := List.map_eq_cons_iff.mp placed
    obtain ⟨otherMoved, otherStep, bareMoved⟩ := lane_step_bare byId bareOther.symm step
    refine ⟨_, .lane otherStep, ?_⟩
    simp [Floor.bare, befores, afters, bareMoved]

/-- **Every interleaving is one of the bare handles.** Whatever the runs of some handles may
come to, the runs of others on the same nodes may come to as well. -/
theorem reachable_bare {first floor other : Floor} (byId : s.dispatcher.KnowsById)
    (same : first.bare = other.bare) (reached : Reachable s view job first floor) :
    ∃ otherFloor, Reachable s view job other otherFloor ∧ floor.bare = otherFloor.bare := by
  induction reached with
  | entry => exact ⟨other, .entry, same⟩
  | step _ taken ih =>
    obtain ⟨otherFloor, otherReached, alike⟩ := ih
    obtain ⟨otherNext, otherTaken, alike⟩ := floor_step_bare byId alike taken
    exact ⟨otherNext, .step otherReached otherTaken, alike⟩

end Fanout
