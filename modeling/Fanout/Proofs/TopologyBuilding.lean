import Fanout.Proofs.AnyNodeDraws
import Fanout.Proofs.Isolation
import Fanout.Proofs.TopologyLoading
import Fanout.Service.Session

/-! Topologies that are put together from handles. The members stay as they are given, and
the local node comes in front of them unless one of them has its id, with whatever name or
address. So the local node is always a member, and jobs for its id stay on it. Nothing more
happens when a topology is put together again from its own parts, and a topology that was
loaded is one that could have been put together. -/
namespace Fanout

/-- Of all nodes in a list with an id, the node stands first. -/
def FirstListed (nodes : List Node) (id : NodeId) (n : Node) : Prop :=
  ∃ before after, nodes = before ++ n :: after ∧ n.id = id ∧ ∀ other ∈ before, other.id ≠ id

/-- Every service with the topology keeps the jobs for an id on the local node. -/
structure Topology.KeepsLocal (topology : Topology) (id : NodeId) : Prop where
  submitted : ∀ (s : Service) (node : Node) (job : JobDescriptor) (draw : Nat) (w : Journal),
    s.topology = topology → node.id = id → job.validate = .ok () →
    ∃ e later, s.submit (.node node) job draw w = (.ok e, later) ∧ e.node = node ∧
      e.route = some .localNode
  /-- If nodes are drawn, this is so when one with the id is drawn. -/
  drawn : ∀ (s : Service) (candidates : List Node) (job : JobDescriptor) (draw : Nat)
    (w later : Journal) (e : Execution), s.topology = topology →
    s.submit (.anyNode candidates) job draw w = (.ok e, later) → e.node.id = id →
    e.route = some .localNode
  broadcast : ∀ (s : Service) (target : BroadcastTarget Node) (job : JobDescriptor) (w : Journal),
    s.topology = topology → id ∈ target.nodes.map Node.id → job.validate = .ok () →
    (∀ n, s.config.maxParallel = some n → n ≤ maxPermits) →
    ∃ report later e, s.broadcast target job w = (.ok report, later) ∧ report.get? id = some e ∧
      e.route = some .localNode

/-- What is put together from a handle on the local node and handles on members. -/
structure PutTogether (localNode : Node) (members : List Node) (topology : Topology) :
    Prop where
  handle : topology.localNode = localNode
  kept : topology.members =
    if localNode.id ∈ members.map Node.id then members else localNode :: members
  /-- A lookup finds the first member with the id, and fails only if there is none. -/
  found : ∀ id n, topology.member? id = some n ↔ FirstListed topology.members id n
  unfound : ∀ id, topology.member? id = none ↔ id ∉ topology.members.map Node.id
  listed : localNode.id ∈ topology.members.map Node.id
  stays : topology.KeepsLocal localNode.id
  /-- Its parts are put together to itself. -/
  again : Topology.ofMembers topology.localNode topology.members = topology

variable {localNode : Node} {members : List Node} {topology : Topology} {s : Service}
  {job : JobDescriptor} {w later : Journal} {e : Execution}

/-! ### Members -/

/-- Whether a handle is contained in a list depends on its id. -/
theorem contains_handle_iff (members : List Node) (n : Node) :
    members.contains n = true ↔ n.id ∈ members.map Node.id := by
  rw [List.contains_iff_exists_mem_beq, List.mem_map]
  exact exists_congr fun other => and_congr_right fun _ => Node.beq_iff.trans eq_comm

/-- A local node that is listed is not put in front, under whichever handle it is listed. -/
theorem of_members_listed (listed : localNode.id ∈ members.map Node.id) :
    Topology.ofMembers localNode members = ⟨localNode, members⟩ := by
  rw [Topology.ofMembers, if_pos ((contains_handle_iff members localNode).mpr listed)]

theorem of_members_unlisted (unlisted : localNode.id ∉ members.map Node.id) :
    Topology.ofMembers localNode members = ⟨localNode, localNode :: members⟩ := by
  rw [Topology.ofMembers,
    if_neg fun contained => unlisted ((contains_handle_iff members localNode).mp contained)]

theorem local_listed (localNode : Node) (members : List Node) :
    localNode.id ∈ (Topology.ofMembers localNode members).members.map Node.id := by
  by_cases listed : localNode.id ∈ members.map Node.id
  · rw [of_members_listed listed]
    exact listed
  · rw [of_members_unlisted listed]
    exact List.mem_cons_self

/-- A topology whose local node is a member is the same when it is put together again. -/
theorem put_together_again (listed : topology.localNode.id ∈ topology.members.map Node.id) :
    Topology.ofMembers topology.localNode topology.members = topology :=
  of_members_listed listed

theorem member_iff_first (topology : Topology) (id : NodeId) (n : Node) :
    topology.member? id = some n ↔ FirstListed topology.members id n := by
  rw [Topology.member?, List.find?_eq_some_iff_append]
  simp only [FirstListed, beq_iff_eq, Bool.not_eq_true', beq_eq_false_iff_ne]
  constructor
  · rintro ⟨same, before, after, split, others⟩
    exact ⟨before, after, split, same, others⟩
  · rintro ⟨before, after, split, same, others⟩
    exact ⟨same, before, after, split, others⟩

theorem member_eq_none_iff (topology : Topology) (id : NodeId) :
    topology.member? id = none ↔ id ∉ topology.members.map Node.id := by
  simp [Topology.member?]

/-! ### Jobs for the local node -/

/-- A run on a member with the id of the local node has the local route. -/
theorem record_kept_local (listed : s.topology.localNode.id ∈ s.topology.members.map Node.id)
    (made : s.MayRecord s.view job e) (named : e.node.id = s.topology.localNode.id) :
    e.route = some .localNode := by
  have has : s.view.has s.topology.localNode.id = true := (view_has_iff s _).mpr listed
  rw [record_route made, named, View.routeOf, if_pos has]
  exact congrArg some (if_pos rfl)

theorem submit_made {target : JobTarget} {draw : Nat}
    (recorded : s.submit target job draw w = (.ok e, later)) : s.MayRecord s.view job e := by
  cases submit_course recorded with
  | @ran node _ _ valid named run =>
    obtain ⟨reading, last, record, -⟩ := run_one_record s s.view job node w.afterReads
    cases record.symm.trans run
    exact run_record_made ..

/-- Where the local node is a member, the jobs for its id are kept on it. -/
theorem listed_kept_local (listed : topology.localNode.id ∈ topology.members.map Node.id) :
    topology.KeepsLocal topology.localNode.id := by
  refine ⟨?_, ?_, ?_⟩
  · rintro s node job draw w rfl named valid
    obtain ⟨now, later, answered, -⟩ := submit_record s node draw w valid
    have handle := Service.run_record_node s s.view job node w.afterReads now
    exact ⟨_, later, answered, handle,
      record_kept_local listed (submit_made answered) ((congrArg Node.id handle).trans named)⟩
  · rintro s candidates job draw w later e rfl recorded named
    exact record_kept_local listed (submit_made recorded) named
  · rintro s target job w rfl targeted valid within
    obtain ⟨report, later, e, reported, found⟩ :=
      broadcast_reports_listed s w valid within targeted
    obtain ⟨made, named⟩ := may_report_made (.scheduled reported found)
    exact ⟨report, later, e, reported, found, record_kept_local listed made named⟩

theorem of_members_put_together (localNode : Node) (members : List Node) :
    PutTogether localNode members (Topology.ofMembers localNode members) := by
  have listed := local_listed localNode members
  refine ⟨rfl, ?_, member_iff_first _, member_eq_none_iff _, listed, listed_kept_local listed,
    put_together_again listed⟩
  split
  · rename_i already
    rw [of_members_listed already]
  · rename_i missing
    rw [of_members_unlisted missing]

/-! ### Loading and putting together -/

/-- **Topologies agree however they are made.** From handles, the members are kept as given
with the local node among them, and doing so once more changes nothing. What is loaded from
a snapshot is put together from its own parts, so a service that is given either makes no
difference between the two, whatever is asked of it later. -/
theorem topologies_agree_however_made :
    (∀ localNode members,
      PutTogether localNode members (Topology.ofMembers localNode members)) ∧
    ∀ snapshot topology, Topology.ofSnapshot snapshot = .ok topology →
      Topology.ofMembers topology.localNode topology.members = topology ∧
      ∀ text, TopologySnapshot.parse text = .ok snapshot →
        ∀ (session : Session) (history : List Request),
          session.performAll (.setTopology (.text text) :: history) =
            session.performAll
              (.setTopology (.handles topology.localNode topology.members) :: history) := by
  refine ⟨of_members_put_together, ?_⟩
  intro snapshot topology loaded
  have taken := (load_taken_over loaded).2.2
  have listed : topology.localNode.id ∈ topology.members.map Node.id :=
    List.mem_map_of_mem (taken.members ▸ taken.listed)
  have again := put_together_again listed
  refine ⟨again, fun text held session history => ?_⟩
  have parsed : (TopologySource.text text).load = .ok topology := by
    rw [TopologySource.load, Topology.parse, held]
    exact loaded
  have built : (TopologySource.handles topology.localNode topology.members).load =
      .ok topology := congrArg Except.ok again
  simp only [Session.performAll, Session.perform, parsed, built]

/-- The local node is listed twice under other names. It keeps its own handle and is not put
in front, a lookup finds the first of the two, and a submit to it stays local. -/
theorem renamed_local_put_together :
    let first := (Node.ofId "a").withName "first"
    let again := (Node.ofId "a").withName "again"
    let topology := Topology.ofMembers (.ofId "a") [.ofId "b", first, again]
    topology = ⟨.ofId "a", [.ofId "b", first, again]⟩ ∧
    topology.member? ⟨"a"⟩ = some first ∧
    (∃ e later,
      { pairService none 0 with topology }.submit (.node again) ⟨"greet", [], .null⟩ 0 {} =
        (.ok e, later) ∧
      e.route = some .localNode) ∧
    ∀ (session : Session) history,
      session.performAll (.setTopology (.text loneSnapshotText) :: history) =
        session.performAll (.setTopology (.handles (.ofId "b") [.ofId "b"]) :: history) := by
  intro first again topology
  have held : TopologySnapshot.parse loneSnapshotText = .ok ⟨⟨"b"⟩, [.ofId "b"]⟩ := by
    decide +kernel
  obtain ⟨built, loaded⟩ := topologies_agree_however_made
  obtain ⟨-, -, found, -, -, stays, -⟩ := built (.ofId "a") [.ofId "b", first, again]
  refine ⟨rfl, (found _ _).mpr ⟨[.ofId "b"], [again], rfl, rfl, by decide⟩, ?_, ?_⟩
  · obtain ⟨e, later, answered, -, route⟩ := stays.submitted
      { pairService none 0 with topology } again ⟨"greet", [], .null⟩ 0 {} rfl rfl rfl
    exact ⟨e, later, answered, route⟩
  · exact (loaded ⟨⟨"b"⟩, [.ofId "b"]⟩ ⟨.ofId "b", [.ofId "b"]⟩ rfl).2 _ held

end Fanout
