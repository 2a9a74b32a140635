import Fanout.Proofs.BroadcastRecords
import Fanout.Service.Submit

/-! The courses that a request can take, each with its answer and with what it leaves in
the journal. A request that gets as far as its runs is answered with their records, so
there are no other courses: no state of a job, no draw and no limit makes one fail on
its way. -/
namespace Fanout

open FirstHandles

variable {s : Service} {job : JobDescriptor} {w later : Journal}

/-! ### Broadcasts -/

/-- What a broadcast may come to, and the journal after it. -/
inductive BroadcastCourse (s : Service) (target : BroadcastTarget Node) (job : JobDescriptor)
    (w : Journal) : Except BroadcastFailure BroadcastReport → Journal → Prop where
  /-- The job is refused before anything else is looked at. -/
  | invalid {violation : Violation} (refused : job.validate = .error violation) :
      BroadcastCourse s target job w (.error (.refused (.domain violation))) w
  /-- There is no node to run the job on. -/
  | nobody (valid : job.validate = .ok ()) (unnamed : target.nodes = []) :
      BroadcastCourse s target job w (s.broadcastNone target.kind) w
  /-- The limit asks for too many permits, which shows after the topology was read. -/
  | stopped (valid : job.validate = .ok ()) (named : target.nodes ≠ [])
      (exceeds : exceedsPermits s.config.maxParallel = true) :
      BroadcastCourse s target job w (.error .tooManyPermits) w.afterReads
  /-- The job was run on every distinct node. -/
  | ran {records : List Execution} (valid : job.validate = .ok ()) (named : target.nodes ≠ [])
      (within : exceedsPermits s.config.maxParallel = false)
      (results : (s.runAll s.view job s.config.maxParallel (distinctNodes target.nodes)
        w.afterReads).1 = records.map .ok)
      (nodes : records.map (·.node) = distinctNodes target.nodes) :
      BroadcastCourse s target job w (.ok ⟨target.kind, records⟩)
        (s.runAll s.view job s.config.maxParallel (distinctNodes target.nodes) w.afterReads).2

/-- Every broadcast takes one of the courses. -/
theorem broadcast_course {target : BroadcastTarget Node}
    {answer : Except BroadcastFailure BroadcastReport}
    (answered : s.broadcast target job w = (answer, later)) :
    BroadcastCourse s target job w answer later := by
  cases checked : job.validate with
  | error violation =>
    simp only [Service.broadcast, checked] at answered
    cases answered
    exact .invalid checked
  | ok =>
    by_cases unnamed : target.nodes = []
    · simp only [Service.broadcast, checked, distinct_nodes_eq_nil_iff.mpr unnamed] at answered
      cases answered
      exact .nobody checked unnamed
    · cases within : exceedsPermits s.config.maxParallel with
      | true =>
        simp only [Service.broadcast, checked, read_topology, Service.broadcastSome,
          within] at answered
        split at answered
        · exact absurd (distinct_nodes_eq_nil_iff.mp ‹_›) unnamed
        · cases answered
          exact .stopped checked unnamed within
      | false =>
        obtain ⟨records, -, results, nodes, -⟩ := run_all_records s s.view job
          s.config.maxParallel (distinctNodes target.nodes) w.afterReads
        rw [broadcast_runs s target checked unnamed within results] at answered
        cases answered
        exact .ran checked unnamed within results nodes

/-! ### Submits -/

/-- What a submit may come to, and the journal after it. -/
inductive SubmitCourse (s : Service) (target : JobTarget) (job : JobDescriptor) (w : Journal) :
    RunResult → Journal → Prop where
  /-- The job is refused before anything else is looked at. -/
  | invalid {violation : Violation} (refused : job.validate = .error violation) :
      SubmitCourse s target job w (.error (.domain violation)) w
  /-- There is no candidate, which is looked at after the topology was read. -/
  | nobody (valid : job.validate = .ok ()) (unnamed : target = .anyNode []) :
      SubmitCourse s target job w (.error noNodes) w.afterReads
  /-- The job was run on a node of the target. -/
  | ran {node : Node} {e : Execution} {later : Journal} (valid : job.validate = .ok ())
      (named : target ≠ .anyNode [])
      (run : s.runOne s.view job node w.afterReads = (.ok e, later)) :
      SubmitCourse s target job w (.ok e) later

theorem drawn_isSome {α : Type} (draw : Nat) {xs : List α} (some : xs ≠ []) :
    ∃ x, drawn? draw xs = Option.some x := by
  have inside : draw % xs.length < xs.length := Nat.mod_lt _ (List.length_pos_iff.mpr some)
  exact ⟨xs[draw % xs.length], List.getElem?_eq_getElem inside⟩

theorem draw_pool_ne_nil (view : View) {candidates : List Node} (some : candidates ≠ []) :
    drawPool view candidates ≠ [] := by
  simp only [drawPool]
  split
  · exact some
  · rename_i alive
    exact fun none => alive (by rw [none]; rfl)

theorem select_node {target : JobTarget} (view : View) (draw : Nat)
    (named : target ≠ .anyNode []) : ∃ node, Service.select view draw target = .ok node := by
  match target with
  | .node node => exact ⟨node, rfl⟩
  | .anyNode [] => exact absurd rfl named
  | .anyNode (first :: rest) =>
    obtain ⟨node, drawn⟩ :=
      drawn_isSome draw (draw_pool_ne_nil view (List.cons_ne_nil first rest))
    exact ⟨node, by simp only [Service.select, drawn]⟩

/-- Every submit takes one of the courses. -/
theorem submit_course {target : JobTarget} {draw : Nat} {answer : RunResult}
    (answered : s.submit target job draw w = (answer, later)) :
    SubmitCourse s target job w answer later := by
  cases checked : job.validate with
  | error violation =>
    simp only [Service.submit, checked] at answered
    cases answered
    exact .invalid checked
  | ok =>
    simp only [Service.submit, checked, read_topology] at answered
    by_cases unnamed : target = .anyNode []
    · subst unnamed
      cases answered
      exact .nobody checked rfl
    · obtain ⟨node, selected⟩ := select_node s.view draw unnamed
      obtain ⟨reading, last, record, -⟩ := run_one_record s s.view job node w.afterReads
      rw [selected] at answered
      cases record.symm.trans answered
      exact .ran checked unnamed record

end Fanout
