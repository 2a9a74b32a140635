import Fanout.Service.Broadcast

/-! The first handles of a target, by what they are and not by how they are found:
their ids are the ids of the target without repetitions, and each of them is the
first handle of the target with its id, with the name and the address it has there.
Reports that hold one record for each of them can be looked up by id. -/
namespace Fanout.FirstHandles

/-- A handle is left out when its id was seen earlier, and among the others the first
one for each id stays. -/
theorem first_handles_ids (seen : List NodeId) (nodes : List Node) :
    (firstHandles seen nodes).map Node.id =
      ((nodes.map Node.id).filter fun id => !seen.contains id).eraseDups := by
  induction nodes generalizing seen with
  | nil => rfl
  | cons n rest ih =>
    by_cases old : n.id ∈ seen
    · simp only [firstHandles, if_pos old, ih]
      simp [old]
    · have later : (fun id => !(n.id :: seen).contains id) =
          fun id => !id == n.id && !seen.contains id := by
        funext id
        by_cases same : id = n.id <;> simp [same]
      simp only [firstHandles, if_neg old, List.map_cons, ih, later]
      simp [old, List.eraseDups_cons, List.filter_filter]

/-- Every id of a target is kept once, at the place where it occurs first. -/
theorem distinct_nodes_ids (nodes : List Node) :
    (distinctNodes nodes).map Node.id = (nodes.map Node.id).eraseDups := by
  rw [distinctNodes, first_handles_ids, List.filter_eq_self.mpr (by simp)]

/-- The handle that is kept for an id is the first one of all that have it. -/
theorem first_handle_found {seen : List NodeId} {nodes : List Node} {n : Node}
    (kept : n ∈ firstHandles seen nodes) :
    n.id ∉ seen ∧ nodes.find? (·.id == n.id) = some n := by
  induction nodes generalizing seen with
  | nil => cases kept
  | cons head rest ih =>
    by_cases old : head.id ∈ seen
    · rw [firstHandles, if_pos old] at kept
      obtain ⟨fresh, found⟩ := ih kept
      have other : head.id ≠ n.id := fun same => fresh (same ▸ old)
      exact ⟨fresh, by simp [other, found]⟩
    · rw [firstHandles, if_neg old] at kept
      rcases List.mem_cons.mp kept with rfl | kept
      · exact ⟨old, by simp⟩
      · obtain ⟨fresh, found⟩ := ih kept
        simp only [List.mem_cons, not_or] at fresh
        exact ⟨fresh.2, by simp [Ne.symm fresh.1, found]⟩

theorem first_handles_nodup (seen : List NodeId) (nodes : List Node) :
    ((firstHandles seen nodes).map Node.id).Nodup := by
  induction nodes generalizing seen with
  | nil => exact .nil
  | cons head rest ih =>
    by_cases old : head.id ∈ seen
    · rw [firstHandles, if_pos old]
      exact ih seen
    · rw [firstHandles, if_neg old]
      refine List.nodup_cons.mpr ⟨?_, ih _⟩
      intro again
      obtain ⟨n, kept, same⟩ := List.mem_map.mp again
      exact (first_handle_found kept).1 (same ▸ List.mem_cons_self)

theorem distinct_nodes_nodup (nodes : List Node) :
    ((distinctNodes nodes).map Node.id).Nodup := first_handles_nodup [] nodes

theorem first_handles_eq_self {seen : List NodeId} {nodes : List Node}
    (fresh : ∀ n ∈ nodes, n.id ∉ seen) (distinct : (nodes.map Node.id).Nodup) :
    firstHandles seen nodes = nodes := by
  induction nodes generalizing seen with
  | nil => rfl
  | cons head rest ih =>
    obtain ⟨absent, distinct⟩ := List.nodup_cons.mp distinct
    rw [firstHandles, if_neg (fresh head List.mem_cons_self), ih ?_ distinct]
    intro n member
    rw [List.mem_cons, not_or]
    exact ⟨fun same => absent (List.mem_map.mpr ⟨n, member, same⟩),
      fresh n (List.mem_cons_of_mem _ member)⟩

theorem distinct_nodes_eq_nil_iff {nodes : List Node} : distinctNodes nodes = [] ↔ nodes = [] := by
  cases nodes <;> simp [distinctNodes, firstHandles]

/-! ### Looking records up -/

/-- In a report with one record for each id, the record of an id is the one that has it. -/
theorem get_eq_some_iff {report : BroadcastReport}
    (distinct : (report.executions.map (·.node.id)).Nodup) {id : NodeId} {e : Execution} :
    report.get? id = some e ↔ e ∈ report.executions ∧ e.node.id = id := by
  obtain ⟨kind, executions⟩ := report
  simp only [BroadcastReport.get?] at distinct ⊢
  induction executions with
  | nil => simp
  | cons first rest ih =>
    obtain ⟨absent, distinct⟩ := List.nodup_cons.mp distinct
    by_cases same : first.node.id = id
    · subst same
      simp only [List.find?_cons, beq_self_eq_true, Option.some.injEq, List.mem_cons]
      constructor
      · rintro rfl
        exact ⟨.inl rfl, rfl⟩
      · rintro ⟨rfl | later, same⟩
        · rfl
        · exact absurd (List.mem_map.mpr ⟨e, later, same⟩) absent
    · have other : (first.node.id == id) = false := beq_false_of_ne same
      simp only [List.find?_cons, other, ih distinct, List.mem_cons]
      constructor
      · rintro ⟨later, found⟩
        exact ⟨.inr later, found⟩
      · rintro ⟨rfl | later, found⟩
        · exact absurd found same
        · exact ⟨later, found⟩

theorem get_isSome_iff (report : BroadcastReport) (id : NodeId) :
    (report.get? id).isSome ↔ id ∈ report.executions.map (·.node.id) := by
  simp [BroadcastReport.get?, List.find?_isSome]

/-- Every record counts either as a success or as a failure. -/
theorem failed_eq_countP (report : BroadcastReport) :
    report.failed = report.executions.countP fun e => e.status.state != .completed := by
  have split := List.length_eq_countP_add_countP Execution.isSuccess (l := report.executions)
  have rest : (fun e : Execution => e.status.state != .completed) =
      fun e => decide ¬ e.isSuccess = true := by
    funext e
    by_cases well : e.status.state = .completed <;> simp [Execution.isSuccess, well]
  rw [rest]
  simp only [BroadcastReport.failed, BroadcastReport.size, BroadcastReport.succeeded]
  omega

end Fanout.FirstHandles
