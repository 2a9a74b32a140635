import Fanout.Proofs.RecordCoherence

/-! Submits to any one of some nodes. The node is drawn from the members among the
candidates, or from all candidates when none is a member, and every handle there can be
drawn, under each place at which it stands. After the draw the submit is one to that node
alone: what becomes of the job there is the answer, and nobody else is tried. -/
namespace Fanout

/-- The candidates that can be drawn, with their own names and addresses and as often as they
are listed: the members among them if there are any, and all of them otherwise. -/
def Topology.pool (topology : Topology) (candidates : List Node) : List Node :=
  if ∃ c ∈ candidates, c.id ∈ topology.members.map Node.id then
    candidates.filter fun c => c.id ∈ topology.members.map Node.id
  else candidates

/-- The job was handed over to a member by its route, in one call after those before, and the
record has the answer to that call. -/
structure Service.AnsweredBy (s : Service) (node : Node) (job : JobDescriptor) (w : Journal)
    (e : Execution) (later : Journal) : Prop where
  route : e.route = some (Service.routeTo s.view node)
  calls : later.calls = w.calls ++
    [s.dispatcher.call (Service.dispatchOf (Service.routeTo s.view node) node e.status.id)]
  outcome : e.outcome = s.dispatcher.answer w.calls
    (Service.dispatchOf (Service.routeTo s.view node) node e.status.id) job

/-- What a submit to any of some nodes may come to, for all draws together. -/
structure DrawsFromPool (s : Service) (candidates : List Node) (job : JobDescriptor)
    (w : Journal) : Prop where
  /-- Its possible answers, with the journals they leave, are those of the submits to the
  nodes of the pool. -/
  answers : ∀ out, (∃ draw, s.submit (.anyNode candidates) job draw w = out) ↔
    ∃ node ∈ s.topology.pool candidates, ∃ draw, s.submit (.node node) job draw w = out
  /-- Every place in the pool has a draw of its own, also where a node is repeated. -/
  places : ∀ place node, (s.topology.pool candidates)[place]? = some node →
    s.submit (.anyNode candidates) job place w = s.submit (.node node) job place w
  /-- If some candidate is a member, a member is called once by its route, and the record has
  its answer, whatever that is. -/
  member : (∃ c ∈ candidates, c.id ∈ s.topology.members.map Node.id) → ∀ draw,
    ∃ e later, s.submit (.anyNode candidates) job draw w = (.ok e, later) ∧
      e.node ∈ candidates ∧ e.node.id ∈ s.topology.members.map Node.id ∧
      s.AnsweredBy e.node job w e later
  /-- If none is, the node that was drawn has left, and nobody is called. -/
  departed : (∀ c ∈ candidates, c.id ∉ s.topology.members.map Node.id) → ∀ draw,
    ∃ e later, s.submit (.anyNode candidates) job draw w = (.ok e, later) ∧
      e.node ∈ candidates ∧ e.route = none ∧ e.outcome = .error (.nodeLeft e.node.id) ∧
      later.calls = w.calls
  neverInternal : ∀ draw reason,
    (s.submit (.anyNode candidates) job draw w).1 ≠ .error (.internal reason)

variable {s : Service} {topology : Topology} {candidates : List Node} {job : JobDescriptor}
  {w : Journal} {node : Node} {draw : Nat}

/-! ### The pool -/

theorem mem_pool (member : ∃ c ∈ candidates, c.id ∈ topology.members.map Node.id) :
    node ∈ topology.pool candidates ↔
      node ∈ candidates ∧ node.id ∈ topology.members.map Node.id := by
  rw [Topology.pool, if_pos member, List.mem_filter, decide_eq_true_iff]

theorem pool_departed (departed : ∀ c ∈ candidates, c.id ∉ topology.members.map Node.id) :
    topology.pool candidates = candidates :=
  if_neg fun ⟨c, listed, member⟩ => departed c listed member

/-- A service draws from the pool of its topology. -/
theorem draw_pool_eq (s : Service) (candidates : List Node) :
    drawPool s.view candidates = s.topology.pool candidates := by
  have alive : candidates.filter (s.view.has ·.id) =
      candidates.filter fun c => c.id ∈ s.topology.members.map Node.id :=
    List.filter_congr fun c _ => Bool.eq_iff_iff.mpr ((view_has_iff s c.id).trans
      decide_eq_true_iff.symm)
  have nobody : (candidates.filter (s.view.has ·.id)).isEmpty = true ↔
      ¬ ∃ c ∈ candidates, c.id ∈ s.topology.members.map Node.id := by
    rw [alive, List.isEmpty_iff, List.filter_eq_nil_iff]
    simp only [decide_eq_true_eq, not_exists, not_and]
  rw [drawPool, Topology.pool]
  by_cases member : ∃ c ∈ candidates, c.id ∈ s.topology.members.map Node.id
  · rw [if_pos member, if_neg fun empty => nobody.mp empty member, alive]
  · rw [if_neg member, if_pos (nobody.mpr member)]

theorem pool_ne_nil (named : candidates ≠ []) : s.topology.pool candidates ≠ [] :=
  draw_pool_eq s candidates ▸ draw_pool_ne_nil s.view named

/-! ### The draw -/

/-- A draw with the number of a place gives the element there. -/
theorem drawn_at {α : Type} {xs : List α} {place : Nat} {x : α} (at_ : xs[place]? = some x) :
    drawn? place xs = some x := by
  obtain ⟨inside, -⟩ := List.getElem?_eq_some_iff.mp at_
  rw [drawn?, Nat.mod_eq_of_lt inside, at_]

/-- Any element can be drawn, and nothing else. -/
theorem drawn_iff {α : Type} {xs : List α} {x : α} :
    (∃ draw, drawn? draw xs = some x) ↔ x ∈ xs := by
  constructor
  · rintro ⟨draw, drawn⟩
    exact List.mem_of_getElem? drawn
  · intro member
    obtain ⟨place, at_⟩ := List.mem_iff_getElem?.mp member
    exact ⟨place, drawn_at at_⟩

/-- After the draw, a submit is one to the node that was drawn. -/
theorem submit_drawn (again : Nat) (drawn : drawn? draw (s.topology.pool candidates) = some node) :
    s.submit (.anyNode candidates) job draw w = s.submit (.node node) job again w := by
  have selected : Service.select s.view draw (.anyNode candidates) = .ok node := by
    cases candidates with
    | nil => cases drawn
    | cons first rest => simp only [Service.select, draw_pool_eq, drawn]
  simp only [Service.submit, read_topology, selected]
  rfl

/-! ### The node that was drawn -/

/-- A submit of a valid job to a node is answered with its record, and has made the call that
the record tells of. -/
theorem submit_record (s : Service) (node : Node) (draw : Nat) (w : Journal)
    (valid : job.validate = .ok ()) :
    ∃ now later, s.submit (.node node) job draw w =
        (.ok (s.runRecord s.view job node w.afterReads now), later) ∧
      later.calls = w.calls ++
        (s.dispatcher.callOf (s.runRecord s.view job node w.afterReads now)).toList := by
  obtain ⟨reading, later, record, -, calls⟩ := run_one_record s s.view job node w.afterReads
  refine ⟨s.clock reading, later, ?_, afterReads_calls w ▸ calls⟩
  simp only [Service.submit, valid, read_topology, Service.select, record]

theorem submit_member (s : Service) (node : Node) (draw : Nat) (w : Journal)
    (valid : job.validate = .ok ()) (member : node.id ∈ s.topology.members.map Node.id) :
    ∃ e later, s.submit (.node node) job draw w = (.ok e, later) ∧ e.node = node ∧
      s.AnsweredBy node job w e later := by
  obtain ⟨now, later, answered, calls⟩ := submit_record s node draw w valid
  have record : s.runRecord s.view job node w.afterReads now =
      (s.memberRun s.view job node w.afterReads).record now :=
    if_pos ((view_has_iff s node.id).mpr member)
  rw [record, Service.call_of_record] at calls
  rw [record] at answered
  have asked : (s.memberRun s.view job node w.afterReads).outcome = s.dispatcher.answer w.calls
      (Service.dispatchOf (Service.routeTo s.view node) node (s.ids w.idsMade)) job :=
    congrArg (s.dispatcher.answer · _ job) (afterReads_calls w)
  exact ⟨_, later, answered, rfl, rfl, calls, asked⟩

theorem submit_departed (s : Service) (node : Node) (draw : Nat) (w : Journal)
    (valid : job.validate = .ok ()) (departed : node.id ∉ s.topology.members.map Node.id) :
    ∃ e later, s.submit (.node node) job draw w = (.ok e, later) ∧ e.node = node ∧
      e.route = none ∧ e.outcome = .error (.nodeLeft e.node.id) ∧ later.calls = w.calls := by
  obtain ⟨now, later, answered, calls⟩ := submit_record s node draw w valid
  have record : s.runRecord s.view job node w.afterReads now =
      s.departedRecord node w.afterReads :=
    if_neg fun has => departed ((view_has_iff s node.id).mp has)
  rw [record] at answered calls
  exact ⟨_, later, answered, rfl, rfl, rfl, calls.trans (List.append_nil _)⟩

/-- **A submit to any of some nodes is a submit to one that can be drawn.** Its possible
answers and effects are exactly those of the submits to the nodes of the pool. A member is
called once if there is one among the candidates, and what it answers stands; otherwise the
node that was drawn is recorded as one that has left. That nobody is drawn cannot happen. -/
theorem any_node_draws_from_pool (s : Service) (candidates : List Node) (job : JobDescriptor)
    (w : Journal) (named : candidates ≠ []) (valid : job.validate = .ok ()) :
    DrawsFromPool s candidates job w := by
  have drawsSome (draw : Nat) :
      ∃ node ∈ s.topology.pool candidates,
        s.submit (.anyNode candidates) job draw w = s.submit (.node node) job draw w := by
    obtain ⟨node, drawn⟩ := drawn_isSome draw (pool_ne_nil (s := s) named)
    exact ⟨node, drawn_iff.mp ⟨draw, drawn⟩, submit_drawn draw drawn⟩
  refine ⟨?_, ?_, ?_, ?_, ?_⟩
  · intro out
    constructor
    · rintro ⟨draw, rfl⟩
      obtain ⟨node, listed, same⟩ := drawsSome draw
      exact ⟨node, listed, draw, same.symm⟩
    · rintro ⟨node, listed, again, rfl⟩
      obtain ⟨draw, drawn⟩ := drawn_iff.mpr listed
      exact ⟨draw, submit_drawn again drawn⟩
  · intro place node at_
    exact submit_drawn place (drawn_at at_)
  · intro some draw
    obtain ⟨node, listed, same⟩ := drawsSome draw
    obtain ⟨candidate, member⟩ := (mem_pool some).mp listed
    obtain ⟨e, later, answered, rfl, handed⟩ := submit_member s node draw w valid member
    exact ⟨e, later, same.trans answered, candidate, member, handed⟩
  · intro none draw
    obtain ⟨node, listed, same⟩ := drawsSome draw
    rw [pool_departed none] at listed
    obtain ⟨e, later, answered, rfl, unrouted⟩ :=
      submit_departed s node draw w valid (none node listed)
    exact ⟨e, later, same.trans answered, listed, unrouted⟩
  · intro draw reason internal
    obtain ⟨node, -, same⟩ := drawsSome draw
    obtain ⟨now, later, answered, -⟩ := submit_record s node draw w valid
    rw [same, answered] at internal
    cases internal

/-- Of four handles the two on `b` can be drawn, each under its own name. Both are canceled,
and the local node is not tried. When only nodes that have left are listed, one of them is
recorded. -/
theorem stale_candidates_passed_over :
    let s := pairService (some 1) 2
    let first := (Node.ofId "b").withName "first"
    let again := (Node.ofId "b").withName "again"
    let greeting : JobDescriptor := ⟨"greet", [], .null⟩
    s.submit (.anyNode [.ofId "c", first, .ofId "d", again]) greeting 1 {} =
        s.submit (.node again) greeting 1 {} ∧
      (∀ draw, ∃ e later,
        s.submit (.anyNode [.ofId "c", first, .ofId "d", again]) greeting draw {} =
          (.ok e, later) ∧ e.outcome = .error .canceled ∧ later.calls.length = 1) ∧
      ∀ draw, ∃ e later, s.submit (.anyNode [.ofId "c", .ofId "d"]) greeting draw {} =
        (.ok e, later) ∧ e.outcome = .error (.nodeLeft e.node.id) ∧ later.calls = [] := by
  intro s first again greeting
  have valid : JobDescriptor.validate ⟨"greet", [], .null⟩ = .ok () := rfl
  have draws := any_node_draws_from_pool s [.ofId "c", first, .ofId "d", again] greeting {}
    (by decide) valid
  have strays := any_node_draws_from_pool s [.ofId "c", .ofId "d"] greeting {} (by decide) valid
  refine ⟨draws.places 1 again (by decide), fun draw => ?_, fun draw => ?_⟩
  · obtain ⟨e, later, answered, candidate, member, handed⟩ :=
      draws.member ⟨first, by simp, by decide⟩ draw
    have remote : e.node = first ∨ e.node = again := by
      simp only [List.mem_cons, List.not_mem_nil, or_false] at candidate
      rcases candidate with same | same | same | same
      · exact absurd (same ▸ member) (by decide)
      · exact .inl same
      · exact absurd (same ▸ member) (by decide)
      · exact .inr same
    refine ⟨e, later, answered, ?_, by rw [handed.calls]; rfl⟩
    rw [handed.outcome]
    rcases remote with same | same <;> rw [same] <;> rfl
  · obtain ⟨e, later, answered, -, -, outcome, calls⟩ := strays.departed (by decide) draw
    exact ⟨e, later, answered, outcome, calls⟩

end Fanout
