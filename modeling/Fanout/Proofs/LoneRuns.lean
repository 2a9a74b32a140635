import Fanout.Proofs.RequestCourses

/-! A broadcast to one node and a submit to that node. The one checks its target, takes its
turns and waits for a permit, and the other calls at once. When there is one run only, none
of this can be seen: both come to the same record or the same error, and leave the same
journal. -/
namespace Fanout

/-- The answer of a broadcast whose only run came to this. -/
def loneAnswer : RunResult → Except BroadcastFailure BroadcastReport
  | .error error => .error (.refused error)
  | .ok e => .ok ⟨.allNodes, [e]⟩

variable {s : Service} {view : View} {job : JobDescriptor} {limit left : Option Nat} {runs : Nat}
  {w : Journal}

/-! ### One run in the schedule -/

theorem drive_over (ended : List (RunResult × Nat)) :
    s.drive view job limit runs { waiting := [], ended, left } w =
      (ended.map Prod.fst, w) := by
  have nobody : s.executor.resume runs ([] : List (Holder × Nat)) = [] :=
    (s.executor.resume_perm runs []).eq_nil
  rw [drive_done rfl (by simp only [Roster.next?, nobody])]
  rfl

theorem drive_rested (holder : Holder) (place : Nat) :
    s.drive view job limit runs { waiting := [], rested := [(holder, place)], left } w =
      s.drive view job limit runs
        (s.attend view job holder place
          { waiting := [], left := s.executor.allowance limit } w).1
        (s.attend view job holder place
          { waiting := [], left := s.executor.allowance limit } w).2 := by
  have resumed : s.executor.resume runs [(holder, place)] = [(holder, place)] :=
    List.perm_singleton.mp (s.executor.resume_perm runs [(holder, place)])
  exact drive_carry rfl (by simp only [Roster.next?, resumed])

/-- A dispatched run ends as if it took no breaks, when nobody else runs. -/
theorem drive_await (pauses : Nat) (run : Pending) (place : Nat) :
    s.drive view job limit runs
        (Roster.settle { waiting := [], left } place (s.await pauses run w).1)
        (s.await pauses run w).2 =
      ([(s.finishRun run w).1], (s.finishRun run w).2) := by
  induction pauses generalizing left with
  | zero => exact drive_over [((s.finishRun run w).1, place)]
  | succ pauses ih => exact (drive_rested (.paused pauses run) place).trans ih

/-- The first turn of a lone run lets it begin. -/
theorem attend_granted (node : Node) (place : Nat) :
    s.attend view job (.granted node) place
        { waiting := [], left := s.executor.allowance limit } w =
      (Roster.settle { waiting := [], left := (s.executor.allowance limit).map (· - 1) } place
          (s.advance view job (.granted node) w).1,
        (s.advance view job (.granted node) w).2) := by
  have lets : (s.executor.allowance limit == some 0) = false :=
    beq_false_of_ne (s.executor.allowance_ne_zero limit)
  simp only [Service.attend, Roster.mustRest, lets]
  rfl

/-- **The schedule of one run is that run.** -/
theorem run_all_lone (s : Service) (view : View) (job : JobDescriptor) (limit : Option Nat)
    (node : Node) (w : Journal) :
    s.runAll view job limit [node] w =
      ([(s.runOne view job node w).1], (s.runOne view job node w).2) := by
  have granted : (Roster.entry [node] (s.executor.allowance limit)).grant? limit =
      some { waiting := [], ready := [(.granted node, 0)],
             left := s.executor.allowance limit } := by
    simp [Roster.grant?, Roster.entry, Roster.held, ask_permit_eq]
  rw [Service.runAll, drive_grant granted, drive_carry rfl rfl, attend_granted]
  simp only [Service.advance, Service.runOne]
  cases s.beginRun view job node w with
  | mk begun later =>
    cases begun with
    | settled result => exact drive_over [(result, 0)]
    | dispatched run => exact drive_await s.dispatcher.pause run 0

/-! ### Both requests -/

theorem distinct_copies (node : Node) {copies : Nat} (present : 1 ≤ copies) :
    distinctNodes (List.replicate copies node) = [node] := by
  obtain ⟨more, rfl⟩ := Nat.exists_eq_add_of_le' present
  have repeated (n : Nat) : firstHandles [node.id] (List.replicate n node) = [] := by
    induction n with
    | zero => rfl
    | succ n ih => rw [List.replicate_succ, firstHandles, if_pos List.mem_cons_self, ih]
  rw [List.replicate_succ, distinctNodes, firstHandles, if_neg List.not_mem_nil, repeated]

theorem broadcast_some_lone (s : Service) (view : View) (job : JobDescriptor) (node : Node)
    (w : Journal) (within : exceedsPermits s.config.maxParallel = false) :
    s.broadcastSome .allNodes view job [node] w =
      (loneAnswer (s.runOne view job node w).1, (s.runOne view job node w).2) := by
  simp only [Service.broadcastSome, within, run_all_lone]
  cases (s.runOne view job node w).1 with
  | error error => rfl
  | ok e => rfl

/-- **Submit and broadcast agree.** A broadcast to copies of one handle has the answer of a
submit to it: the same error, or the same record and no other. It leaves the same journal,
so it has made the same reads and the same calls and used up as many ids and readings. -/
theorem broadcast_agrees_with_submit (s : Service) (node : Node) (copies : Nat)
    (job : JobDescriptor) (draw : Nat) (w : Journal) (present : 1 ≤ copies)
    (within : ∀ n, s.config.maxParallel = some n → n ≤ maxPermits) :
    s.broadcast ⟨List.replicate copies node⟩ job w =
      (loneAnswer (s.submit (.node node) job draw w).1,
        (s.submit (.node node) job draw w).2) := by
  simp only [Service.broadcast, Service.submit, distinct_copies node present]
  cases job.validate with
  | error violation => rfl
  | ok =>
    exact broadcast_some_lone s s.view job node w.afterReads (within_permits.mpr within)

/-- The job that `b` cancels has one record in both requests, and in a broadcast to three
handles on `b` it is canceled once. -/
theorem copied_target_agrees :
    ∃ e later,
      (pairService (some 0) 2).submit (.node (.ofId "b")) ⟨"greet", [], .null⟩ 0 {} =
        (.ok e, later) ∧
      (pairService (some 0) 2).broadcast ⟨List.replicate 3 (.ofId "b")⟩ ⟨"greet", [], .null⟩ {} =
        (.ok ⟨.allNodes, [e]⟩, later) ∧
      e.status.state = .canceled ∧ later.calls = [⟨.remoteNode, ⟨"b"⟩, "0"⟩] := by
  have agrees := broadcast_agrees_with_submit (pairService (some 0) 2) (.ofId "b") 3
    ⟨"greet", [], .null⟩ 0 {} (by decide) fun n same => by cases same; decide
  exact ⟨_, _, rfl, agrees, rfl, rfl⟩

end Fanout
