import Fanout.Proofs.EndedRuns
import Fanout.Proofs.FirstHandles

/-! What a broadcast reports. A valid job that is sent to some node comes back with a
report, whatever the topology, the dispatcher and the order in which the runs end: one
record on the first handle of every distinct id, in the order of first occurrence. -/
namespace Fanout

open FirstHandles

/-- The topology of a service as each of its requests sees it. -/
def Service.view (s : Service) : View :=
  ⟨s.topology.localNode.id, s.topology.members.map Node.id⟩

/-- The journal after a request has read the topology. -/
def Journal.afterReads (w : Journal) : Journal := (w.record .readLocal).record .readMembers

variable {s : Service} {target : BroadcastTarget Node} {job : JobDescriptor} {w later : Journal}
  {report : BroadcastReport} {records : List Execution}

theorem read_topology (s : Service) (w : Journal) : s.readTopology w = (s.view, w.afterReads) := rfl

@[simp] theorem afterReads_idsMade (w : Journal) : w.afterReads.idsMade = w.idsMade := rfl

theorem afterReads_effects (w : Journal) :
    w.afterReads.effects = w.effects ++ [.readLocal, .readMembers] := by
  simp [Journal.afterReads, Journal.record]

@[simp] theorem afterReads_calls (w : Journal) : w.afterReads.calls = w.calls := by
  simp [Journal.calls_eq (afterReads_effects w), Effect.calls, Effect.call?]

/-- No record is lost when all runs have ended with one. -/
theorem collect_records (records : List Execution) : collect (records.map .ok) = .ok records := by
  induction records with
  | nil => rfl
  | cons e rest ih => simp [collect, ih, Except.map]

/-! ### The course of a broadcast -/

/-- A limit that no semaphore refuses. -/
theorem within_permits {limit : Option Nat} :
    exceedsPermits limit = false ↔ ∀ n, limit = some n → n ≤ maxPermits := by
  cases limit <;> simp [exceedsPermits]

/-- A broadcast that gets as far as its runs reports their records. -/
theorem broadcast_runs (s : Service) (target : BroadcastTarget Node)
    (valid : job.validate = .ok ()) (named : target.nodes ≠ [])
    (within : exceedsPermits s.config.maxParallel = false)
    (results : (s.runAll s.view job s.config.maxParallel (distinctNodes target.nodes)
      w.afterReads).1 = records.map .ok) :
    s.broadcast target job w = (.ok ⟨target.kind, records⟩,
      (s.runAll s.view job s.config.maxParallel (distinctNodes target.nodes) w.afterReads).2) := by
  have some : distinctNodes target.nodes ≠ [] := fun none =>
    named (distinct_nodes_eq_nil_iff.mp none)
  simp only [Service.broadcast, valid]
  split
  · rename_i none
    exact absurd none some
  · rename_i node rest nodes
    rw [nodes] at results
    simp only [read_topology, Service.broadcastSome, within, results, collect_records, nodes]
    rfl

/-- A broadcast that has a report either was sent to no node and did nothing, or reports
the records of its runs. -/
theorem broadcast_cases (reported : s.broadcast target job w = (.ok report, later)) :
    (report.executions = [] ∧ later = w) ∨
      job.validate = .ok () ∧ target.nodes ≠ [] ∧
        exceedsPermits s.config.maxParallel = false := by
  simp only [Service.broadcast] at reported
  split at reported
  · cases reported
  · rename_i valid
    split at reported
    · simp only [Service.broadcastNone] at reported
      split at reported <;> cases reported
      exact .inl ⟨rfl, rfl⟩
    · rename_i node rest nodes
      simp only [Service.broadcastSome] at reported
      split at reported
      · cases reported
      · rename_i within
        refine .inr ⟨valid, ?_, Bool.not_eq_true _ ▸ within⟩
        intro none
        simp [distinct_nodes_eq_nil_iff.mpr none] at nodes

/-- A valid job that is sent to some node is reported, with the record of a run on the first
handle of every distinct node. -/
theorem broadcast_reported (s : Service) (target : BroadcastTarget Node) (job : JobDescriptor)
    (w : Journal) (valid : job.validate = .ok ()) (named : target.nodes ≠ [])
    (within : exceedsPermits s.config.maxParallel = false) :
    ∃ records later, s.broadcast target job w = (.ok ⟨target.kind, records⟩, later) ∧
      records.map (·.node) = distinctNodes target.nodes ∧
      ∀ e ∈ records, s.MayRecord s.view job e := by
  obtain ⟨records, -, results, nodes, made, -⟩ := run_all_records s s.view job
    s.config.maxParallel (distinctNodes target.nodes) w.afterReads
  exact ⟨records, _, broadcast_runs s target valid named within results, nodes, made⟩

/-- There are no other records in any report. -/
theorem report_records (reported : s.broadcast target job w = (.ok report, later)) :
    ∀ e ∈ report.executions,
      e.node ∈ distinctNodes target.nodes ∧ s.MayRecord s.view job e := by
  rcases broadcast_cases reported with ⟨none, -⟩ | ⟨valid, named, within⟩
  · simp [none]
  · obtain ⟨records, last, answered, nodes, made⟩ :=
      broadcast_reported s target job w valid named within
    cases answered.symm.trans reported
    intro e member
    exact ⟨nodes ▸ List.mem_map_of_mem member, made e member⟩

/-! ### The report -/

/-- A report owes its target one record on the first handle of every distinct id, in the
order of first occurrence, found under that id alone, and counted once. -/
structure Reports (nodes : List Node) (report : BroadcastReport) : Prop where
  ids : report.executions.map (·.node.id) = (nodes.map Node.id).eraseDups
  /-- The node of a record is the first handle that the target has for its id, verbatim. -/
  handles : ∀ e ∈ report.executions, nodes.find? (·.id == e.node.id) = some e.node
  known : ∀ id, (report.get? id).isSome ↔ id ∈ nodes.map Node.id
  found : ∀ id e, report.get? id = some e ↔ e ∈ report.executions ∧ e.node.id = id
  size : report.size = (nodes.map Node.id).eraseDups.length
  succeeded : report.succeeded = report.executions.countP (·.status.state == .completed)
  failed : report.failed = report.executions.countP (·.status.state != .completed)
  counted : report.succeeded + report.failed = report.size

/-- Records on the first handles of a target, in order, are all that a report owes. -/
theorem reports_of_nodes {nodes : List Node} (kind : BroadcastKind)
    (named : records.map (·.node) = distinctNodes nodes) : Reports nodes ⟨kind, records⟩ := by
  have ids : records.map (·.node.id) = (nodes.map Node.id).eraseDups := by
    rw [← distinct_nodes_ids, ← named, List.map_map]
    rfl
  have distinct : (records.map (·.node.id)).Nodup := by
    rw [ids, ← distinct_nodes_ids]
    exact distinct_nodes_nodup nodes
  refine ⟨ids, ?_, ?_, ?_, ?_, rfl, failed_eq_countP _, ?_⟩
  · intro e member
    have kept : e.node ∈ distinctNodes nodes := named ▸ List.mem_map_of_mem member
    exact (first_handle_found kept).2
  · intro id
    rw [get_isSome_iff, ids, List.mem_eraseDups]
  · intro id e
    exact get_eq_some_iff distinct
  · rw [← ids, List.length_map]
    rfl
  · have bounded : records.countP Execution.isSuccess ≤ records.length := List.countP_le_length
    simp only [BroadcastReport.failed, BroadcastReport.succeeded, BroadcastReport.size]
    omega

/-- **Every broadcast of a valid job to some node is reported in full.** The service
returns a report that owes nothing to its target. So does every other order in which
the runs may be granted permits, begin and end: their results are collected without a
failure into such a report. -/
theorem broadcast_reports_every_node (s : Service) (target : BroadcastTarget Node)
    (job : JobDescriptor) (w : Journal) (valid : job.validate = .ok ())
    (named : target.nodes ≠ [])
    (within : ∀ n, s.config.maxParallel = some n → n ≤ maxPermits) :
    (∃ report later, s.broadcast target job w = (.ok report, later) ∧
      Reports target.nodes report) ∧
    ∀ view permits v floor results,
      Reachable s view job (.entry permits (distinctNodes target.nodes) v) floor →
      floor.EndedWith results →
      ∃ records, collect results = .ok records ∧
        Reports target.nodes ⟨target.kind, records⟩ := by
  constructor
  · obtain ⟨records, -, results, nodes, -, -⟩ := run_all_records s s.view job
      s.config.maxParallel (distinctNodes target.nodes) w.afterReads
    exact ⟨_, _, broadcast_runs s target valid named (within_permits.mpr within) results,
      reports_of_nodes target.kind nodes⟩
  · intro view permits v floor results reached ended
    obtain ⟨records, rfl, nodes, -⟩ := ended_records reached ended
    exact ⟨records, collect_records records, reports_of_nodes target.kind nodes⟩

/-- A service on node `a` of a cluster of `a` and `b`, where `b` cancels every job. -/
def pairService (limit : Option Nat) (pause : Nat) : Service where
  topology := ⟨.ofId "a", [.ofId "a", .ofId "b"]⟩
  dispatcher := .keyed ⟨"a"⟩ pause fun id _ => if id = ⟨"b"⟩ then .error .canceled else .ok .null
  ids := toString
  clock := fun _ => 0
  config := { maxParallel := limit }
  executor := .standard

/-- A target that names `b` twice, the departed `c` in between, and `a`. -/
def mixedTarget : BroadcastTarget Node :=
  ⟨[(Node.ofId "b").withName "first", .ofId "c", (Node.ofId "b").withName "again", .ofId "a"]⟩

/-- The records of a broadcast to the mixed target follow the first occurrences, and the
record of `b` carries the name it was given first. -/
theorem mixed_target_reported_once :
    ∃ report later,
      (pairService (some 1) 2).broadcast mixedTarget ⟨"greet", [], .null⟩ {} =
        (.ok report, later) ∧
      report.executions.map (·.node.id) = [⟨"b"⟩, ⟨"c"⟩, ⟨"a"⟩] ∧
      ∃ e, report.get? ⟨"b"⟩ = some e ∧ e.node.name = "first" := by
  obtain ⟨⟨report, later, reported, owed⟩, -⟩ := broadcast_reports_every_node
    (pairService (some 1) 2) mixedTarget ⟨"greet", [], .null⟩ {} rfl (by simp [mixedTarget])
    fun n same => by cases same; decide
  refine ⟨report, later, reported, owed.ids.trans (by decide), ?_⟩
  obtain ⟨e, found⟩ := Option.isSome_iff_exists.mp ((owed.known ⟨"b"⟩).mpr (by decide))
  obtain ⟨member, same⟩ := (owed.found _ e).mp found
  have handle := owed.handles e member
  rw [same] at handle
  exact ⟨e, found, congrArg Node.name (Option.some.inj handle).symm⟩

end Fanout
