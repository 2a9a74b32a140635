import Fanout.Proofs.BareHandles
import Fanout.Proofs.BroadcastRecords

/-! What a broadcast sees of its target: the ids, in the order in which they occur first.
Repetitions use up nothing, and names and addresses turn up in the records alone, as the
first handle on each node has them. So targets with the same ids in that order can stand in
for each other. -/
namespace Fanout

open FirstHandles

/-- The report with nothing but the ids of its nodes. -/
def BroadcastReport.bare (report : BroadcastReport) : BroadcastReport :=
  { report with executions := report.executions.map Execution.bare }

/-- Two reports agree in everything but names and addresses. -/
structure SameButHandles (report other : BroadcastReport) : Prop where
  kind : report.kind = other.kind
  /-- The records have the same ids, routes, statuses and outcomes in the same order. -/
  records : report.executions.map Execution.bare = other.executions.map Execution.bare
  found : ∀ id, (report.get? id).map Execution.bare = (other.get? id).map Execution.bare
  size : report.size = other.size
  succeeded : report.succeeded = other.succeeded
  failed : report.failed = other.failed

/-- Two broadcasts are answered with the same failure, or with reports that agree in
everything but names and addresses. -/
inductive AnsweredAlike : Except BroadcastFailure BroadcastReport →
    Except BroadcastFailure BroadcastReport → Prop where
  | failed (failure : BroadcastFailure) : AnsweredAlike (.error failure) (.error failure)
  | reported {report other : BroadcastReport} (same : SameButHandles report other) :
      AnsweredAlike (.ok report) (.ok other)

/-- One target can stand in for the other in a broadcast. -/
structure Interchangeable (s : Service) (job : JobDescriptor) (w : Journal)
    (target other : BroadcastTarget Node) : Prop where
  answers : AnsweredAlike (s.broadcast target job w).1 (s.broadcast other job w).1
  /-- As many ids and readings are taken, and the reads and calls are the same in the same
  order, so that as many calls are open at each time. -/
  journal : (s.broadcast target job w).2 = (s.broadcast other job w).2
  /-- The name and the address in a record are those of the first handle of its target. -/
  handles : ∀ report, (s.broadcast target job w).1 = .ok report → ∀ e ∈ report.executions,
    target.nodes.find? (·.id == e.node.id) = some e.node
  otherHandles : ∀ report, (s.broadcast other job w).1 = .ok report → ∀ e ∈ report.executions,
    other.nodes.find? (·.id == e.node.id) = some e.node
  /-- Whatever the runs may come to in any order, they may come to for the other target. -/
  orders : ∀ permits v floor,
    Reachable s s.view job (.entry permits (distinctNodes target.nodes) v) floor →
    ∃ otherFloor, Reachable s s.view job (.entry permits (distinctNodes other.nodes) v)
        otherFloor ∧ floor.bare = otherFloor.bare

variable {s : Service} {target other : BroadcastTarget Node} {job : JobDescriptor} {w : Journal}
  {report otherReport : BroadcastReport}

/-! ### Bare targets -/

/-- Handles on the same nodes differ in nothing when they are bare. -/
theorem bare_of_ids {xs ys : List Node} (same : xs.map Node.id = ys.map Node.id) :
    xs.map Node.bare = ys.map Node.bare := by
  have bare (zs : List Node) :
      zs.map Node.bare = (zs.map Node.id).map fun id => Node.ofId id.text := by
    rw [List.map_map]
    rfl
  rw [bare, bare, same]

theorem bare_ids (nodes : List Node) : (nodes.map Node.bare).map Node.id = nodes.map Node.id := by
  rw [List.map_map]
  rfl

/-- The first handles of a target are all different, so they are kept when they are the
target. -/
theorem distinct_nodes_idem (nodes : List Node) :
    distinctNodes (distinctNodes nodes) = distinctNodes nodes :=
  first_handles_eq_self (by simp) (distinct_nodes_nodup nodes)

theorem distinct_nodes_bare (nodes : List Node) :
    distinctNodes ((distinctNodes nodes).map Node.bare) = (distinctNodes nodes).map Node.bare := by
  refine first_handles_eq_self (by simp) ?_
  rw [bare_ids]
  exact distinct_nodes_nodup nodes

/-! ### The request on bare handles -/

theorem collect_bare (results : List RunResult) :
    collect (results.map bareResult) = (collect results).map (List.map Execution.bare) := by
  induction results with
  | nil => rfl
  | cons result rest ih =>
    cases result with
    | error error => rfl
    | ok e =>
      change (collect (rest.map bareResult)).map (e.bare :: ·) = _
      rw [ih, collect]
      cases collect rest <;> rfl

theorem broadcast_some_bare (byId : s.dispatcher.KnowsById) (kind : BroadcastKind) (view : View)
    (nodes : List Node) :
    s.broadcastSome kind view job (nodes.map Node.bare) w =
      ((s.broadcastSome kind view job nodes w).1.map BroadcastReport.bare,
        (s.broadcastSome kind view job nodes w).2) := by
  simp only [Service.broadcastSome]
  split
  · rfl
  · simp only [run_all_bare byId, collect_bare]
    cases collect (s.runAll view job s.config.maxParallel nodes w).1 <;> rfl

/-- A broadcast to the first handles of a target, bare as they are, comes to the same but
for the handles, and does the same. -/
theorem broadcast_bare (byId : s.dispatcher.KnowsById) (target : BroadcastTarget Node)
    (job : JobDescriptor) (w : Journal) :
    s.broadcast ⟨(distinctNodes target.nodes).map Node.bare⟩ job w =
      ((s.broadcast target job w).1.map BroadcastReport.bare, (s.broadcast target job w).2) := by
  simp only [Service.broadcast, distinct_nodes_bare]
  cases job.validate with
  | error violation => rfl
  | ok =>
    cases distinctNodes target.nodes with
    | nil =>
      simp only [Service.broadcastNone, List.map_nil]
      cases s.config.emptyPolicy <;> rfl
    | cons node rest => exact broadcast_some_bare byId .allNodes s.view (node :: rest)

/-- A target may be replaced by its first handles. -/
theorem broadcast_distinct (s : Service) (target : BroadcastTarget Node) (job : JobDescriptor)
    (w : Journal) :
    s.broadcast ⟨distinctNodes target.nodes⟩ job w = s.broadcast target job w := by
  simp only [Service.broadcast, distinct_nodes_idem, BroadcastTarget.kind]

/-! ### Reports that agree -/

theorem get_bare (report : BroadcastReport) (id : NodeId) :
    report.bare.get? id = (report.get? id).map Execution.bare := by
  simp only [BroadcastReport.get?, BroadcastReport.bare, List.find?_map]
  rfl

theorem size_bare (report : BroadcastReport) : report.bare.size = report.size := by
  simp [BroadcastReport.size, BroadcastReport.bare]

theorem succeeded_bare (report : BroadcastReport) : report.bare.succeeded = report.succeeded := by
  simp only [BroadcastReport.succeeded, BroadcastReport.bare, List.countP_map]
  rfl

theorem same_of_bare (same : report.bare = otherReport.bare) :
    SameButHandles report otherReport := by
  have size : report.size = otherReport.size := by rw [← size_bare, same, size_bare]
  have succeeded : report.succeeded = otherReport.succeeded := by
    rw [← succeeded_bare, same, succeeded_bare]
  have kind : report.bare.kind = otherReport.bare.kind := congrArg _ same
  have records : report.bare.executions = otherReport.bare.executions := congrArg _ same
  refine ⟨kind, records, ?_, size, succeeded, ?_⟩
  · intro id
    rw [← get_bare, same, get_bare]
  · rw [BroadcastReport.failed, BroadcastReport.failed, size, succeeded]

theorem alike_of_bare {answer otherAnswer : Except BroadcastFailure BroadcastReport}
    (same : answer.map BroadcastReport.bare = otherAnswer.map BroadcastReport.bare) :
    AnsweredAlike answer otherAnswer := by
  cases answer with
  | error failure =>
    cases otherAnswer with
    | error otherFailure =>
      cases same
      exact .failed failure
    | ok otherReport => cases same
  | ok report =>
    cases otherAnswer with
    | error otherFailure => cases same
    | ok otherReport => exact .reported (same_of_bare (Except.ok.inj same))

/-- The node of a record is the first handle of the target with its id. -/
theorem reported_handles (reported : (s.broadcast target job w).1 = .ok report) :
    ∀ e ∈ report.executions, target.nodes.find? (·.id == e.node.id) = some e.node := by
  cases answered : s.broadcast target job w with
  | mk answer later =>
    rw [answered] at reported
    cases reported
    intro e member
    exact (first_handle_found (report_records answered e member).1).2

/-- A dispatcher that answers by ids knows nodes by their ids. -/
theorem keyed_knows_by_id (localId : NodeId) (pause : Nat)
    (react : NodeId → JobDescriptor → Outcome) :
    (Dispatcher.keyed localId pause react).KnowsById := by
  intro past node other id job same
  exact congrArg (react · job) same

/-! ### Targets that can stand in for each other -/

theorem entry_floor_bare (permits : Nat) (nodes : List Node) (v : Journal) :
    (Floor.entry permits nodes v).bare = Floor.entry permits (nodes.map Node.bare) v := by
  simp only [Floor.bare, Floor.entry, List.map_map]
  rfl

/-- Targets with the same ids in the order of first occurrence are interchangeable. -/
theorem interchangeable_of_ids (byId : s.dispatcher.KnowsById)
    (same : (target.nodes.map Node.id).eraseDups = (other.nodes.map Node.id).eraseDups) :
    Interchangeable s job w target other := by
  rw [← distinct_nodes_ids, ← distinct_nodes_ids] at same
  have bare := bare_of_ids same
  have first := broadcast_bare byId target job w
  rw [bare, broadcast_bare byId other job w] at first
  obtain ⟨answers, journals⟩ := Prod.mk.inj first
  refine ⟨alike_of_bare answers.symm, journals.symm, fun _ => reported_handles,
    fun _ => reported_handles, ?_⟩
  intro permits v floor reached
  exact reachable_bare byId (by rw [entry_floor_bare, entry_floor_bare, bare]) reached

/-- Targets that compare equal have the same ids. -/
theorem ids_of_beq (same : (target == other) = true) :
    target.nodes.map Node.id = other.nodes.map Node.id := by
  obtain ⟨xs⟩ := target
  obtain ⟨ys⟩ := other
  replace same : (xs == ys) = true := same
  induction xs generalizing ys with
  | nil =>
    cases ys with
    | nil => rfl
    | cons y ys => cases same
  | cons x xs ih =>
    cases ys with
    | nil => cases same
    | cons y ys =>
      obtain ⟨head, tail⟩ := Bool.and_eq_true_iff.mp same
      rw [List.map_cons, List.map_cons, Node.beq_iff.mp head]
      exact congrArg (y.id :: ·) (ih ys tail)

/-- **A broadcast sees its target through the ids that occur in it, in the order of their
first occurrence.** If the dispatcher knows nodes by their ids, targets with the same ids in
that order can stand in for each other, whatever is asked of a service and whenever. Targets
that compare equal are of this kind, and so is a target without its repetitions, which does
not even change a handle. -/
theorem broadcast_sees_first_occurrences (s : Service) (job : JobDescriptor) (w : Journal)
    (byId : s.dispatcher.KnowsById) :
    (∀ target other : BroadcastTarget Node,
      (target.nodes.map Node.id).eraseDups = (other.nodes.map Node.id).eraseDups →
      Interchangeable s job w target other) ∧
    (∀ target other : BroadcastTarget Node, (target == other) = true →
      Interchangeable s job w target other) ∧
    ∀ target : BroadcastTarget Node,
      s.broadcast ⟨distinctNodes target.nodes⟩ job w = s.broadcast target job w :=
  ⟨fun _ _ same => interchangeable_of_ids byId same,
    fun _ _ same => interchangeable_of_ids byId (congrArg List.eraseDups (ids_of_beq same)),
    fun target => broadcast_distinct s target job w⟩

/-- A target with the ids of the mixed target in the order of first occurrence, but with
other names and addresses and with other repetitions. -/
def repeatedTarget : BroadcastTarget Node :=
  ⟨[.ofId "b", (Node.ofId "c").withAddress "10.0.0.3", .ofId "c", .ofId "a",
    (Node.ofId "b").withName "late"]⟩

theorem repeated_target_stands_in :
    ∃ report otherReport later,
      (pairService (some 1) 2).broadcast mixedTarget ⟨"greet", [], .null⟩ {} =
        (.ok report, later) ∧
      (pairService (some 1) 2).broadcast repeatedTarget ⟨"greet", [], .null⟩ {} =
        (.ok otherReport, later) ∧
      report.executions.map Execution.bare = otherReport.executions.map Execution.bare ∧
      report.executions ≠ otherReport.executions := by
  have byId : (pairService (some 1) 2).dispatcher.KnowsById :=
    keyed_knows_by_id ⟨"a"⟩ 2 fun id _ => if id = ⟨"b"⟩ then .error .canceled else .ok .null
  obtain ⟨interchange, -, -⟩ :=
    broadcast_sees_first_occurrences (pairService (some 1) 2) ⟨"greet", [], .null⟩ {} byId
  obtain ⟨answers, journals, handles, otherHandles, -⟩ :=
    interchange mixedTarget repeatedTarget (by decide)
  obtain ⟨records, last, reported, nodes, -⟩ := broadcast_reported (pairService (some 1) 2)
    mixedTarget ⟨"greet", [], .null⟩ {} rfl (by decide) rfl
  rw [reported] at answers journals
  cases other : (pairService (some 1) 2).broadcast repeatedTarget ⟨"greet", [], .null⟩ {} with
  | mk answer later =>
    rw [other] at answers journals otherHandles
    cases journals
    cases answers with
    | @reported _ otherReport same =>
      refine ⟨_, otherReport, _, reported, rfl, same.records, ?_⟩
      intro equal
      obtain ⟨e, rest, listed⟩ : ∃ e rest, records = e :: rest := by
        cases records with
        | nil => exact absurd nodes (by decide)
        | cons e rest => exact ⟨e, rest, rfl⟩
      have first : e ∈ otherReport.executions := equal ▸ listed ▸ List.mem_cons_self
      have name := otherHandles otherReport rfl e first
      have node : e.node = (Node.ofId "b").withName "first" := by
        rw [listed] at nodes
        exact (List.cons.inj nodes).1
      rw [node] at name
      exact absurd name (by decide)

end Fanout
