import Fanout.Console.Program
import Fanout.Proofs.RecordCoherence

/-! What the nodes of the program make of a job. They echo it, so what is listed of a node is
settled by the topology, the job and the id of the node: a member completes the job, and any
other node has left. Only the job ids and the times of a record differ from run to run. -/
namespace Fanout.Console

open FirstHandles

/-- What is listed of a node beside its id and the job id. -/
structure Fate where
  route : String
  state : String
  result : String
  deriving DecidableEq, Repr

/-- What a node answers: the job and the id of the node. -/
def echo (job : JobDescriptor) (name : String) : Json.Value :=
  .object [("args", job.args), ("job", .string job.className), ("node", .string name)]

/-- What becomes of a job on the node of a name. -/
def fate (topology : Topology) (job : JobDescriptor) (name : String) : Fate :=
  if name = topology.localNode.id.text then ⟨"LOCAL", "COMPLETED", (echo job name).compact⟩
  else if ⟨name⟩ ∈ topology.members.map Node.id then
    ⟨"REMOTE", "COMPLETED", (echo job name).compact⟩
  else ⟨"-", "FAILED", "Node " ++ name ++ " has left the cluster"⟩

/-- What is listed of a record. -/
def listedFate (e : Execution) : Fate :=
  ⟨(e.route.map Route.name).getD "-", e.status.state.name, outcomeText e.outcome⟩

/-- The report of a broadcast has a record of every distinct node, which tells its fate, and
the first job ids. -/
structure Echoes (host : Host) (topology : Topology) (job : JobDescriptor) (nodes : List Node)
    (report : BroadcastReport) : Prop where
  nodes : report.executions.map (·.node) = distinctNodes nodes
  fates : ∀ e ∈ report.executions, listedFate e = fate topology job e.node.id.text
  members : ∀ e ∈ report.executions,
    e.isSuccess = true ↔ e.node.id ∈ topology.members.map Node.id
  ids : (report.executions.map (·.status.id)).Perm ((List.range report.size).map host.ids)

variable {s : Service} {host : Host} {topology : Topology} {config : Config} {job : JobDescriptor}
  {target : BroadcastTarget Node} {e : Execution}

/-! ### The records of a broadcast -/

/-- A broadcast that is not refused has a record of a run on every distinct node, and its job
ids are the first ones of the service. -/
theorem broadcast_answered (s : Service) (target : BroadcastTarget Node)
    (valid : job.validate = .ok ())
    (within : ∀ n, s.config.maxParallel = some n → n ≤ maxPermits)
    (allowed : target.nodes = [] → s.config.emptyPolicy = .allow) :
    ∃ report later, s.broadcast target job {} = (.ok report, later) ∧
      report.executions.map (·.node) = distinctNodes target.nodes ∧
      (∀ e ∈ report.executions, s.MayRecord s.view job e) ∧
      (report.executions.map (·.status.id)).Perm ((List.range report.size).map s.ids) := by
  by_cases unnamed : target.nodes = []
  · have none : distinctNodes target.nodes = [] := distinct_nodes_eq_nil_iff.mpr unnamed
    have answered : s.broadcast target job {} = (.ok ⟨target.kind, []⟩, {}) := by
      simp only [Service.broadcast, valid, none, Service.broadcastNone, allowed unnamed]
    exact ⟨_, _, answered, none ▸ rfl, fun e member => absurd member List.not_mem_nil,
      List.Perm.nil⟩
  · obtain ⟨records, order, results, nodes, made, turns⟩ := run_all_records s s.view job
      s.config.maxParallel (distinctNodes target.nodes) (Journal.afterReads {})
    have answered := broadcast_runs s target valid unnamed (within_permits.mpr within) results
    refine ⟨_, _, answered, nodes, made, ?_⟩
    have drawn : order.map (·.status.id) = (List.range records.length).map s.ids := by
      rw [List.range_eq_range', ← turns.perm.length_eq]
      exact turns.numbered
    rw [BroadcastReport.size, ← drawn]
    exact (turns.perm.map _).symm

/-! ### The record of one node -/

theorem id_text_inj {a b : NodeId} : a.text = b.text ↔ a = b :=
  ⟨fun same => congrArg NodeId.mk same, congrArg NodeId.text⟩

/-- A member answers with the echo, whatever the route. -/
theorem member_echoed (node : Node) (w : Journal) :
    ((host.service topology config).memberRun (host.service topology config).view job node
      w).outcome = .ok (echo job node.id.text) := by
  by_cases here : node.id = topology.localNode.id
  · have route : Service.routeTo (host.service topology config).view node = .localNode :=
      if_pos here
    simp only [Service.memberRun, route, here]
    rfl
  · have route : Service.routeTo (host.service topology config).view node = .remoteNode :=
      if_neg here
    simp only [Service.memberRun, route]
    rfl

theorem has_iff (id : NodeId) : (host.service topology config).view.has id = true ↔
    id ∈ topology.members.map Node.id := view_has_iff (host.service topology config) id

/-- What is listed of a run is the fate of its node, if the local node is a member. -/
theorem run_fate (listed : topology.localNode.id ∈ topology.members.map Node.id) (node : Node)
    (w : Journal) (now : Millis) :
    listedFate ((host.service topology config).runRecord (host.service topology config).view job
      node w now) = fate topology job node.id.text := by
  unfold Service.runRecord fate
  simp only [id_text_inj]
  split
  · rename_i has
    simp only [listedFate, Pending.record, member_echoed, if_pos ((has_iff node.id).mp has)]
    by_cases here : node.id = topology.localNode.id
    · have route : Service.routeTo (host.service topology config).view node = .localNode :=
        if_pos here
      simp only [Service.memberRun, route, if_pos here]
      rfl
    · have route : Service.routeTo (host.service topology config).view node = .remoteNode :=
        if_neg here
      simp only [Service.memberRun, route, if_neg here]
      rfl
  · rename_i departed
    have outside : node.id ∉ topology.members.map Node.id := fun member =>
      departed ((has_iff node.id).mpr member)
    have elsewhere : node.id ≠ topology.localNode.id := fun here => outside (here ▸ listed)
    rw [if_neg elsewhere, if_neg outside]
    rfl

/-- A run completes the job exactly if its node is a member. -/
theorem run_success (node : Node) (w : Journal) (now : Millis) :
    ((host.service topology config).runRecord (host.service topology config).view job node w
      now).isSuccess = true ↔ node.id ∈ topology.members.map Node.id := by
  unfold Service.runRecord
  split
  · rename_i has
    simp only [Execution.isSuccess, Pending.record, member_echoed]
    exact iff_of_true rfl ((has_iff node.id).mp has)
  · rename_i departed
    exact iff_of_false Bool.false_ne_true fun member => departed ((has_iff node.id).mpr member)

theorem record_fate (listed : topology.localNode.id ∈ topology.members.map Node.id)
    (made : (host.service topology config).MayRecord (host.service topology config).view job e) :
    listedFate e = fate topology job e.node.id.text := by
  obtain ⟨w, now, same⟩ := made
  rw [same, Service.run_record_node]
  exact run_fate listed e.node w now

theorem record_success
    (made : (host.service topology config).MayRecord (host.service topology config).view job e) :
    e.isSuccess = true ↔ e.node.id ∈ topology.members.map Node.id := by
  obtain ⟨w, now, same⟩ := made
  rw [same, Service.run_record_node]
  exact run_success e.node w now

/-! ### The broadcast of the program -/

/-- The program prints the report of a broadcast that is not refused. -/
theorem broadcast_echoed (host : Host) (nodes : List Node) {options : JobOptions}
    {rejectEmpty : Bool} {limit : Option Nat} (listed : topology.localNode ∈ topology.members)
    (described : options.descriptor = .ok job) (valid : job.validate = .ok ())
    (within : ∀ n, limit = some n → n ≤ maxPermits)
    (allowed : nodes = [] → rejectEmpty = false) (asJson : Bool) :
    ∃ report, host.broadcast topology asJson nodes options (broadcastConfig rejectEmpty limit) =
        .printed (reportText asJson (colorsWanted host.env host.terminal) report) ∧
      Echoes host topology job nodes report := by
  have policy (unnamed : nodes = []) :
      (broadcastConfig rejectEmpty limit).emptyPolicy = .allow := by
    rw [allowed unnamed]
    rfl
  obtain ⟨report, later, answered, named, made, ids⟩ := broadcast_answered
    (host.service topology (broadcastConfig rejectEmpty limit)) ⟨nodes⟩ valid within policy
  refine ⟨report, ?_, named, fun e member => ?_, fun e member => record_success (made e member),
    ids⟩
  · simp only [Host.broadcast, described, answered]
  · exact record_fate (List.mem_map_of_mem listed) (made e member)

/-- A command line for a broadcast hands the nodes that it names over to the service, or all
members. -/
theorem run_broadcast {words : List String} {path : String} {asJson rejectEmpty : Bool}
    {names : Option (List String)} {options : JobOptions} {limit : Option Nat}
    (understood : Invocation.read host.env words =
      .ok ⟨path, asJson, .broadcast names options rejectEmpty limit⟩)
    (loaded : host.load path = .ok topology) : run host words =
      host.broadcast topology asJson (broadcastNodes topology names) options
        (broadcastConfig rejectEmpty limit) := by
  simp only [run, understood, Invocation.run, loaded, Host.perform]

end Fanout.Console
