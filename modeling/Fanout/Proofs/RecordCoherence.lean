import Fanout.Proofs.RequestCourses

/-! What the parts of a record say together. The state, the route, the times and the
outcome are written at different places, on the way of a departed node and on that of
a member. They always agree, whatever the dispatcher answers. In particular a member
that the dispatcher reports as gone has a route and a time of its start, and a node that
has left has neither. -/
namespace Fanout

/-- The parts of a record agree with each other, with the members of the topology and
with all calls that were made until the request was answered. -/
structure Execution.Coherent (s : Service) (job : JobDescriptor) (calls : List Call)
    (e : Execution) : Prop where
  /-- The job has ended, at some time. -/
  final : e.status.state.isFinal = true
  finished : e.status.finishedAt.isSome = true
  /-- It was handed over, and started, unless its node is no member. -/
  unrouted : e.route = none ↔ e.node.id ∉ s.topology.members.map Node.id
  unstarted : e.status.startedAt = none ↔ e.node.id ∉ s.topology.members.map Node.id
  /-- If it was not handed over, the node of the record has left. -/
  departed : e.route = none → e.outcome = .error (.nodeLeft e.node.id) ∧ e.status.state = .failed
  /-- If it was handed over, the outcome is what the dispatcher answered to the call that
  was made for it, after just the calls before. -/
  answered : ∀ route, e.route = some route → ∃ before after,
    calls = before ++ s.dispatcher.call (Service.dispatchOf route e.node e.status.id) :: after ∧
      e.outcome = s.dispatcher.answer before (Service.dispatchOf route e.node e.status.id) job
  /-- The state is that of the outcome. -/
  completed : e.status.state = .completed ↔ ∃ value, e.outcome = .ok value
  canceled : e.status.state = .canceled ↔ e.outcome = .error .canceled
  failed : e.status.state = .failed ↔ ∃ error, e.outcome = .error error ∧ error ≠ .canceled
  success : e.isSuccess = true ↔ ∃ value, e.outcome = .ok value

variable {s : Service} {view : View} {job : JobDescriptor} {w later : Journal}
  {target : BroadcastTarget Node} {report : BroadcastReport} {records : List Execution}
  {e : Execution} {calls : List Call} {floor : Floor} {permits : Nat} {nodes : List Node}

/-! ### The state of an outcome -/

theorem end_state_final (outcome : Outcome) : (Outcome.endState outcome).isFinal = true := by
  rcases outcome with error | value
  · cases error <;> rfl
  · rfl

theorem end_state_completed_iff (outcome : Outcome) :
    Outcome.endState outcome = .completed ↔ ∃ value, outcome = .ok value := by
  rcases outcome with error | value
  · cases error <;> simp [Outcome.endState]
  · simp [Outcome.endState]

theorem end_state_canceled_iff (outcome : Outcome) :
    Outcome.endState outcome = .canceled ↔ outcome = .error .canceled := by
  rcases outcome with error | value
  · cases error <;> simp [Outcome.endState]
  · simp [Outcome.endState]

theorem end_state_failed_iff (outcome : Outcome) :
    Outcome.endState outcome = .failed ↔
      ∃ error, outcome = .error error ∧ error ≠ .canceled := by
  rcases outcome with error | value
  · cases error <;> simp [Outcome.endState]
  · simp [Outcome.endState]

/-! ### The record of one run -/

theorem view_has_iff (s : Service) (id : NodeId) :
    s.view.has id = true ↔ id ∈ s.topology.members.map Node.id := by
  simp [View.has, Service.view]

/-- A node that is no member leaves a coherent record, whatever calls were made. -/
theorem departed_record_coherent {node : Node}
    (outside : node.id ∉ s.topology.members.map Node.id) :
    (s.departedRecord node w).Coherent s job calls where
  final := rfl
  finished := rfl
  unrouted := iff_of_true rfl outside
  unstarted := iff_of_true rfl outside
  departed _ := ⟨rfl, rfl⟩
  answered _ routed := nomatch routed
  completed := by simp [Service.departedRecord]
  canceled := by simp [Service.departedRecord]
  failed := by simp [Service.departedRecord]
  success := by simp [Service.departedRecord, Execution.isSuccess]

/-- A member leaves a coherent record if its call came right after those that its run
found when it began. -/
theorem member_record_coherent {node : Node} {now : Millis} {after : List Call}
    (inside : node.id ∈ s.topology.members.map Node.id)
    (called : calls = w.calls ++ (s.memberRun s.view job node w).call :: after) :
    ((s.memberRun s.view job node w).record now).Coherent s job calls where
  final := end_state_final _
  finished := rfl
  unrouted := iff_of_false nofun (not_not_intro inside)
  unstarted := iff_of_false nofun (not_not_intro inside)
  departed unrouted := nomatch unrouted
  answered _ routed := by
    cases routed
    exact ⟨w.calls, after, called, rfl⟩
  completed := end_state_completed_iff _
  canceled := end_state_canceled_iff _
  failed := end_state_failed_iff _
  success := beq_iff_eq.trans (end_state_completed_iff _)

/-- A run leaves a coherent record if its call, if it made one, came right after those
that it found when it began. -/
theorem run_record_coherent {node : Node} {now : Millis} {after : List Call}
    (called : calls = w.calls ++
      (s.dispatcher.callOf (s.runRecord s.view job node w now)).toList ++ after) :
    (s.runRecord s.view job node w now).Coherent s job calls := by
  cases member : s.view.has node.id with
  | false =>
    have outside : node.id ∉ s.topology.members.map Node.id := by
      rw [← view_has_iff, member]
      exact Bool.false_ne_true
    simp only [Service.runRecord, member]
    exact departed_record_coherent outside
  | true =>
    have inside := (view_has_iff s node.id).mp member
    simp only [Service.runRecord, member, if_true, Service.call_of_record,
      Option.toList_some, List.append_assoc, List.singleton_append] at called ⊢
    exact member_record_coherent inside called

/-! ### The records of a request -/

/-- Every record of a broadcast that has ended is that of a run, and the call that the
record tells of came right after those that the run found when it began. -/
theorem ended_record_called (reached : Reachable s view job (.entry permits nodes w) floor)
    (ended : floor.EndedWith (records.map .ok)) (listed : e ∈ records) :
    ∃ node start now after, e = s.runRecord view job node start now ∧
      floor.journal.calls = start.calls ++ (s.dispatcher.callOf e).toList ++ after := by
  obtain ⟨-, order, perm, -, succession, -, calls⟩ :=
    trail_begin_order (reachable_trail reached) fun impossible : False => impossible.elim
  have done := ended_of_results ended
  rw [begun_of_ended done] at perm
  have recorded : Stage.ended (.ok e) ∈ floor.lanes.map Lane.stage := by
    rw [ended_with_iff.mp ended]
    exact List.mem_map_of_mem listed
  obtain ⟨lane, member, stage⟩ := List.mem_map.mp recorded
  obtain ⟨before, after, rfl⟩ := List.append_of_mem (perm.mem_iff.mpr member)
  obtain ⟨-, sound, -⟩ := (succession_append ..).mp succession
  obtain ⟨start, reading, ⟨-, found⟩, own, called, -⟩ := sound_ended sound (done lane member)
  have same : e = s.runRecord view job lane.node start (s.clock reading) := by
    rw [stage] at own
    cases own
    rfl
  refine ⟨lane.node, start, s.clock reading, after.flatMap Lane.calls, same, ?_⟩
  rw [calls, same, ← called, found]
  simp

/-- The records of a broadcast are coherent in every order of its runs. -/
theorem ended_coherent (reached : Reachable s s.view job (.entry permits nodes w) floor)
    (ended : floor.EndedWith (records.map .ok)) :
    ∀ e ∈ records, e.Coherent s job floor.journal.calls := by
  intro e listed
  obtain ⟨node, start, now, after, rfl, called⟩ := ended_record_called reached ended listed
  exact run_record_coherent called

theorem broadcast_coherent (reported : s.broadcast target job w = (.ok report, later)) :
    ∀ e ∈ report.executions, e.Coherent s job later.calls := by
  rcases broadcast_cases reported with ⟨none, -⟩ | ⟨valid, named, within⟩
  · simp [none]
  · obtain ⟨last, trail, ended, journal⟩ := run_all_trail s s.view job s.config.maxParallel
      (distinctNodes target.nodes) w.afterReads
    have reached := trail_reachable trail
    obtain ⟨records, results, -⟩ := ended_records reached ended
    rw [broadcast_runs s target valid named within results] at reported
    cases reported
    exact journal ▸ ended_coherent reached (results ▸ ended)

theorem submit_coherent {target : JobTarget} {draw : Nat}
    (recorded : s.submit target job draw w = (.ok e, later)) : e.Coherent s job later.calls := by
  cases submit_course recorded with
  | @ran node _ _ valid named run =>
    obtain ⟨reading, last, record, -, calls⟩ := run_one_record s s.view job node w.afterReads
    cases record.symm.trans run
    rw [← List.append_nil (_ ++ _)] at calls
    exact run_record_coherent calls

/-- **Every record is coherent**, for both requests and in every order of the runs. -/
theorem every_record_coherent (s : Service) (w : Journal) :
    (∀ target job report later, s.broadcast target job w = (.ok report, later) →
      ∀ e ∈ report.executions, e.Coherent s job later.calls) ∧
    (∀ target job draw e later, s.submit target job draw w = (.ok e, later) →
      e.Coherent s job later.calls) ∧
    ∀ job permits nodes floor results records,
      Reachable s s.view job (.entry permits nodes w.afterReads) floor →
      floor.EndedWith results → collect results = .ok records →
      ∀ e ∈ records, e.Coherent s job floor.journal.calls := by
  refine ⟨fun _ _ _ _ => broadcast_coherent, fun _ _ _ _ _ => submit_coherent, ?_⟩
  intro job permits nodes floor results records reached ended collected
  obtain ⟨found, rfl, -, -⟩ := ended_records reached ended
  cases (collect_records found).symm.trans collected
  exact ended_coherent reached ended

/-- A service on node `a` of a cluster of `a` and `b` whose dispatcher always reports that
`c` has left, whichever node it was to call. -/
def mistakenService : Service :=
  { pairService (some 1) 2 with
    dispatcher := .keyed ⟨"a"⟩ 2 fun _ _ => .error (.nodeLeft ⟨"c"⟩) }

/-- All records of a broadcast to the mixed target have the same outcome. Still the
departed `c` is told from the members, which were handed the job and were started. -/
theorem mistaken_dispatcher_recorded :
    ∃ report later,
      mistakenService.broadcast mixedTarget ⟨"greet", [], .null⟩ {} = (.ok report, later) ∧
      report.executions.map (·.node.id) = [⟨"b"⟩, ⟨"c"⟩, ⟨"a"⟩] ∧
      ∀ e ∈ report.executions, e.outcome = .error (.nodeLeft ⟨"c"⟩) ∧
        (e.route = none ↔ e.node.id = ⟨"c"⟩) ∧ (e.status.startedAt = none ↔ e.node.id = ⟨"c"⟩) := by
  obtain ⟨records, -, results, nodes, -⟩ := run_all_records mistakenService mistakenService.view
    ⟨"greet", [], .null⟩ (some 1) (distinctNodes mixedTarget.nodes) (Journal.afterReads {})
  have reported := broadcast_runs mistakenService mixedTarget rfl (by decide) rfl results
  have coherent := (every_record_coherent mistakenService {}).1 _ _ _ _ reported
  have ids := congrArg (List.map Node.id) nodes
  rw [List.map_map, show (distinctNodes mixedTarget.nodes).map Node.id =
    [⟨"b"⟩, ⟨"c"⟩, ⟨"a"⟩] by decide] at ids
  refine ⟨_, _, reported, ids, ?_⟩
  intro e listed
  have owed := coherent e listed
  have named : e.node.id ∈ [⟨"b"⟩, ⟨"c"⟩, ⟨"a"⟩] := ids ▸ List.mem_map_of_mem listed
  have outside : e.node.id ∉ mistakenService.topology.members.map Node.id ↔
      e.node.id = ⟨"c"⟩ := by
    generalize e.node.id = id at named ⊢
    simp only [List.mem_cons, List.not_mem_nil, or_false] at named
    rcases named with rfl | rfl | rfl <;> decide
  refine ⟨?_, owed.unrouted.trans outside, owed.unstarted.trans outside⟩
  cases routed : e.route with
  | none => rw [(owed.departed routed).1, outside.mp (owed.unrouted.mp routed)]
  | some route =>
    obtain ⟨before, after, -, answered⟩ := owed.answered route routed
    rw [answered]
    cases route <;> rfl

end Fanout
