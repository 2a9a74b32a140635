import Fanout.Proofs.RecordCoherence

/-! Nodes do not see each other. What a broadcast reports of a node, its job id and its
times apart, depends on whether the node is a member, whether it is the local one, and how
the dispatcher answers for it. Two services that agree on these report the same of it, to
whatever targets they broadcast, under whatever limits, after whatever else they did and
in whatever order their runs go. So a failure or a departure stays with its own node. -/
namespace Fanout

open FirstHandles

/-- Where a dispatch goes, as far as a dispatcher is told: to a remote node, or to the
local one. -/
def Dispatch.site : Dispatch → Option NodeId
  | .toLocal _ => none
  | .toRemote node _ => some node.id

/-- Where a service sends the job of a node. -/
def Service.siteOf (s : Service) (id : NodeId) : Option NodeId :=
  if id = s.topology.localNode.id then none else some id

/-- The answers depend on the route, the id of the node and the job alone. -/
def Dispatcher.Steady (d : Dispatcher) : Prop :=
  ∀ (past other : List Call) (dispatch again : Dispatch) (job : JobDescriptor),
    dispatch.site = again.site → d.answer past dispatch job = d.answer other again job

/-- Two services look the same to a node: they agree on the local node, on whether the node
is a member, and on the answer to a dispatch that goes where its job is sent. They need not
agree on anything else. -/
structure LooksSame (s t : Service) (job : JobDescriptor) (id : NodeId) : Prop where
  localId : s.topology.localNode.id = t.topology.localNode.id
  member : id ∈ s.topology.members.map Node.id ↔ id ∈ t.topology.members.map Node.id
  steady : s.dispatcher.Steady
  otherSteady : t.dispatcher.Steady
  answers : ∀ dispatch, dispatch.site = s.siteOf id →
    s.dispatcher.answer [] dispatch job = t.dispatcher.answer [] dispatch job

/-- Two records say the same of what came of a job. -/
structure Execution.SameVerdict (e f : Execution) : Prop where
  route : e.route = f.route
  state : e.status.state = f.status.state
  outcome : e.outcome = f.outcome
  started : e.status.startedAt.isSome = f.status.startedAt.isSome
  finished : e.status.finishedAt.isSome = f.status.finishedAt.isSome

/-- The record that a broadcast may report for an id, whatever was done before. -/
inductive Service.MayReport (s : Service) (target : BroadcastTarget Node) (job : JobDescriptor)
    (id : NodeId) (e : Execution) : Prop where
  /-- The runs took the turns of the schedule. -/
  | scheduled {w later : Journal} {report : BroadcastReport}
      (reported : s.broadcast target job w = (.ok report, later))
      (found : report.get? id = some e) : MayReport s target job id e
  /-- They took their steps in some other order, with so many permits. -/
  | ordered {permits : Nat} {w : Journal} {floor : Floor} {results : List RunResult}
      {records : List Execution}
      (reached : Reachable s s.view job (.entry permits (distinctNodes target.nodes) w) floor)
      (ended : floor.EndedWith results) (collected : collect results = .ok records)
      (found : BroadcastReport.get? ⟨target.kind, records⟩ id = some e) :
      MayReport s target job id e

variable {s t : Service} {target : BroadcastTarget Node} {job : JobDescriptor} {id : NodeId}
  {e f : Execution} {w : Journal}

/-! ### The dispatch of one run -/

theorem dispatch_site (view : View) (node : Node) (job : JobId) :
    (Service.dispatchOf (Service.routeTo view node) node job).site =
      if node.id = view.localId then none else some node.id := by
  unfold Service.routeTo
  split <;> rfl

theorem keyed_steady (localId : NodeId) (pause : Nat)
    (react : NodeId → JobDescriptor → Outcome) : (Dispatcher.keyed localId pause react).Steady := by
  intro past other dispatch again job same
  cases dispatch with
  | toLocal id =>
    cases again with
    | toLocal otherId => rfl
    | toRemote node otherId => cases same
  | toRemote node id =>
    cases again with
    | toLocal otherId => cases same
    | toRemote otherNode otherId => exact congrArg (react · job) (Option.some.inj same)

/-! ### The records of one node -/

/-- A node that both services see as a member gets the same answer from both, however often
and under whatever job ids they have called before. -/
theorem member_outcome (same : LooksSame s t job id) (w v : Journal) {node other : Node}
    (named : node.id = id) (otherNamed : other.id = id) :
    (s.memberRun s.view job node w).outcome = (t.memberRun t.view job other v).outcome := by
  have site : (Service.dispatchOf (Service.routeTo s.view node) node (s.ids w.idsMade)).site =
      s.siteOf id := by
    rw [dispatch_site, named]
    rfl
  have otherSite :
      (Service.dispatchOf (Service.routeTo t.view other) other (t.ids v.idsMade)).site =
        s.siteOf id := by
    rw [dispatch_site, otherNamed, Service.siteOf, same.localId]
    rfl
  calc s.dispatcher.answer w.calls _ job
      = s.dispatcher.answer [] _ job := same.steady _ _ _ _ job rfl
    _ = t.dispatcher.answer [] _ job := same.answers _ site
    _ = t.dispatcher.answer v.calls _ job :=
        same.otherSteady _ _ _ _ job (site.trans otherSite.symm)

/-- The records of two runs on nodes with one id say the same, if the services look the same
to it. -/
theorem may_record_verdict (same : LooksSame s t job id) (made : s.MayRecord s.view job e)
    (otherMade : t.MayRecord t.view job f) (named : e.node.id = id) (otherNamed : f.node.id = id) :
    e.SameVerdict f := by
  obtain ⟨w, now, record⟩ := made
  obtain ⟨v, otherNow, otherRecord⟩ := otherMade
  have ids : e.node.id = f.node.id := named.trans otherNamed.symm
  have member : s.view.has e.node.id = t.view.has f.node.id := by
    rw [Bool.eq_iff_iff, view_has_iff, view_has_iff, named, otherNamed]
    exact same.member
  rw [record, otherRecord, Service.runRecord, Service.runRecord, ← member]
  cases s.view.has e.node.id with
  | false => exact ⟨rfl, rfl, by simp [Service.departedRecord, ids], rfl, rfl⟩
  | true =>
    have here : s.view.localId = t.view.localId := same.localId
    have route : Service.routeTo s.view e.node = Service.routeTo t.view f.node := by
      rw [Service.routeTo, Service.routeTo, ids, here]
    have outcome := member_outcome same w v named otherNamed
    exact ⟨congrArg some route, congrArg Outcome.endState outcome, outcome, rfl, rfl⟩

theorem get_listed {report : BroadcastReport} (found : report.get? id = some e) :
    e ∈ report.executions ∧ e.node.id = id := by
  have named := List.find?_some (p := fun e : Execution => e.node.id == id) found
  exact ⟨List.mem_of_find?_eq_some found, beq_iff_eq.mp named⟩

/-- A record that a broadcast may report for an id is that of a run on a node with the id. -/
theorem may_report_made (reports : s.MayReport target job id e) :
    s.MayRecord s.view job e ∧ e.node.id = id := by
  cases reports with
  | scheduled reported found =>
    obtain ⟨listed, named⟩ := get_listed found
    exact ⟨(report_records reported e listed).2, named⟩
  | ordered reached ended collected found =>
    obtain ⟨records, rfl, -, made⟩ := ended_records reached ended
    cases (collect_records records).symm.trans collected
    obtain ⟨listed, named⟩ := get_listed found
    exact ⟨made e listed, named⟩

/-- A broadcast of a valid job reports some record for every id of its target. -/
theorem broadcast_reports_listed (s : Service) (w : Journal) (valid : job.validate = .ok ())
    (within : ∀ n, s.config.maxParallel = some n → n ≤ maxPermits)
    (listed : id ∈ target.nodes.map Node.id) :
    ∃ report later e, s.broadcast target job w = (.ok report, later) ∧
      report.get? id = some e := by
  have named : target.nodes ≠ [] := by
    intro none
    simp [none] at listed
  obtain ⟨records, later, reported, nodes, -⟩ :=
    broadcast_reported s target job w valid named (within_permits.mpr within)
  have owed : Reports target.nodes ⟨target.kind, records⟩ := reports_of_nodes target.kind nodes
  obtain ⟨e, found⟩ := Option.isSome_iff_exists.mp ((owed.known id).mpr listed)
  exact ⟨_, later, e, reported, found⟩

/-! ### Two broadcasts -/

/-- **Nodes do not see each other.** Two broadcasts of one valid job, to targets that both
list a node, by services that look the same to it, both report the node, and what they say
of it is the same. It is so for all records that they may report of it. -/
theorem nodes_are_isolated (s t : Service) (target other : BroadcastTarget Node)
    (job : JobDescriptor) (id : NodeId) (same : LooksSame s t job id)
    (valid : job.validate = .ok ())
    (listed : id ∈ target.nodes.map Node.id) (otherListed : id ∈ other.nodes.map Node.id)
    (within : ∀ n, s.config.maxParallel = some n → n ≤ maxPermits)
    (otherWithin : ∀ n, t.config.maxParallel = some n → n ≤ maxPermits) :
    (∀ w v, ∃ report later e otherReport otherLater f,
      s.broadcast target job w = (.ok report, later) ∧ report.get? id = some e ∧
      t.broadcast other job v = (.ok otherReport, otherLater) ∧ otherReport.get? id = some f ∧
      e.SameVerdict f) ∧
    ∀ e f, s.MayReport target job id e → t.MayReport other job id f → e.SameVerdict f := by
  have verdict : ∀ e f, s.MayReport target job id e → t.MayReport other job id f →
      e.SameVerdict f := by
    intro e f reports otherReports
    obtain ⟨made, named⟩ := may_report_made reports
    obtain ⟨otherMade, otherNamed⟩ := may_report_made otherReports
    exact may_record_verdict same made otherMade named otherNamed
  refine ⟨fun w v => ?_, verdict⟩
  obtain ⟨report, later, e, reported, found⟩ := broadcast_reports_listed s w valid within listed
  obtain ⟨otherReport, otherLater, f, otherReported, otherFound⟩ :=
    broadcast_reports_listed t v valid otherWithin otherListed
  exact ⟨report, later, e, otherReport, otherLater, f, reported, found, otherReported,
    otherFound, verdict e f (.scheduled reported found) (.scheduled otherReported otherFound)⟩

/-- A service on the same node `a`, which here is no member, of a cluster of `b` and `d`. It
has no limit and its dispatcher fails every job but those of `b`, which it cancels too. -/
def strayService : Service where
  topology := ⟨.ofId "a", [.ofId "d", .ofId "b"]⟩
  dispatcher := .keyed ⟨"d"⟩ 0 fun id _ =>
    if id = ⟨"b"⟩ then .error .canceled else .error (.failed "stray")
  ids := toString
  clock := fun n => .ofNat n
  config := {}

/-- The cluster around `b` is another one, its neighbors fail or have left, and it is listed
last. What is reported of it stays the same. -/
theorem stray_neighbors_unseen :
    ∃ report later e otherReport otherLater f,
      (pairService (some 1) 2).broadcast mixedTarget ⟨"greet", [], .null⟩ {} =
        (.ok report, later) ∧ report.get? ⟨"b"⟩ = some e ∧
      strayService.broadcast ⟨[.ofId "a", .ofId "d", .ofId "e", .ofId "b"]⟩
        ⟨"greet", [], .null⟩ {} = (.ok otherReport, otherLater) ∧
      otherReport.get? ⟨"b"⟩ = some f ∧ e.SameVerdict f := by
  have same : LooksSame (pairService (some 1) 2) strayService ⟨"greet", [], .null⟩ ⟨"b"⟩ := by
    refine ⟨rfl, by decide, keyed_steady ⟨"a"⟩ 2 fun id _ =>
      if id = ⟨"b"⟩ then .error .canceled else .ok .null, keyed_steady ⟨"d"⟩ 0 fun id _ =>
      if id = ⟨"b"⟩ then .error .canceled else .error (.failed "stray"), ?_⟩
    intro dispatch site
    rw [show (pairService (some 1) 2).siteOf ⟨"b"⟩ = some ⟨"b"⟩ by decide] at site
    cases dispatch with
    | toLocal job => cases site
    | toRemote node job => simp [pairService, strayService, Dispatcher.keyed, Option.some.inj site]
  exact (nodes_are_isolated (pairService (some 1) 2) strayService mixedTarget
    ⟨[.ofId "a", .ofId "d", .ofId "e", .ofId "b"]⟩ ⟨"greet", [], .null⟩ ⟨"b"⟩ same rfl (by decide)
    (by decide) (fun n same => by cases same; decide) fun n same => by cases same).1 {} {}

end Fanout
