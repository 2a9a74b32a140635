import Fanout.Identifier
import Fanout.Proofs.RequestCourses
import Fanout.Service.Session
import Mathlib.Data.List.Nodup
import Mathlib.Data.Nat.ModEq
import Std.Data.String.ToNat

/-! Job ids over the whole life of a service. Every record that a service returns has made
the next id, on whichever node its job ran and whatever came of it, and nothing else makes
one. So the ids of all records are numbered without a gap, in the order in which the runs
began, and a counter of 64 bits gives each of them another id until it starts over. -/
namespace Fanout

/-! ### The counter -/

/-- A counter that makes ids: the common first part, and the number of the next id. -/
structure IdCounter where
  stem : String
  next : UInt64 := 1

namespace IdCounter

/-- Makes an id, and moves on by one. After the last number comes zero. -/
def make (counter : IdCounter) : JobId × IdCounter :=
  (counter.stem ++ "-" ++ toString counter.next.toNat, { counter with next := counter.next + 1 })

/-- The ids that so many calls make. -/
def makeMany : Nat → IdCounter → List JobId
  | 0, _ => []
  | calls + 1, counter =>
    let (id, counter) := counter.make
    id :: counter.makeMany calls

end IdCounter

/-- A counter that has made some ids makes those that follow. -/
theorem counter_makes (stem : String) (calls made : Nat) :
    IdCounter.makeMany calls ⟨stem, .ofNat (made + 1)⟩ =
      (List.range' made calls).map (sequentialId stem) := by
  induction calls generalizing made with
  | zero => rfl
  | succ calls ih =>
    have next : UInt64.ofNat (made + 1) + 1 = UInt64.ofNat (made + 1 + 1) :=
      (UInt64.ofNat_add (made + 1) 1).symm
    simp only [IdCounter.makeMany, IdCounter.make, next, ih, List.range'_succ, List.map_cons]
    simp [sequentialId, wordCount]

/-- Two ids of a counter are the same exactly if their numbers differ by a multiple of the
number of words. -/
theorem sequentialId_eq_iff (stem : String) (i j : Nat) :
    sequentialId stem i = sequentialId stem j ↔ i ≡ j [MOD wordCount] := by
  have numbers : sequentialId stem i = sequentialId stem j ↔
      (i + 1) % wordCount = (j + 1) % wordCount := by
    simp only [sequentialId, String.append_right_inj]
    exact Nat.repr_inj
  rw [numbers]
  exact ⟨fun same => Nat.ModEq.add_right_cancel' 1 same, fun same => Nat.ModEq.add_right 1 same⟩

/-! ### The ids of a request -/

/-- The records of an answer, in the order in which it lists them. -/
def Answer.records : Answer → List Execution
  | .broadcast (.ok report) => report.executions
  | .submit (.ok e) => [e]
  | _ => []

/-- The runs of a schedule begin in target order: what it comes to is what some course of
steps comes to on which no run begins before one that stands in front of it. -/
def Service.BeginsInOrder (s : Service) (job : JobDescriptor) (nodes : List Node) (w : Journal) :
    Prop :=
  ∃ last, Trail s s.view job Floor.InOrder
      (.entry (s.config.maxParallel.getD nodes.length) nodes w) last ∧
    last.EndedWith (s.runAll s.view job s.config.maxParallel nodes w).1 ∧
    last.journal = (s.runAll s.view job s.config.maxParallel nodes w).2

/-- The runs of every broadcast in a history that has a report begin in target order. -/
def Session.BeginsInOrder : Session → List Request → Prop
  | _, [] => True
  | session, request :: rest =>
    (∀ target job report, request = .broadcast target job →
      (session.perform request).1 = .broadcast (.ok report) →
      session.service.BeginsInOrder job (distinctNodes target.nodes)
        session.journal.afterReads) ∧
    BeginsInOrder (session.perform request).2 rest

/-- The records in the order in which their runs began: they have the next ids, one each,
and that is how many ids were made. If `ordered` holds it is the order they are listed in. -/
structure Numbered (ids : Nat → JobId) (ordered : Prop) (made later : Nat)
    (records order : List Execution) : Prop where
  perm : order.Perm records
  target : ordered → order = records
  ids : order.map (·.status.id) = (List.range' made order.length).map ids
  made : later = made + order.length

variable {s : Service} {job : JobDescriptor} {w later : Journal}

theorem numbered_none (ids : Nat → JobId) (ordered : Prop) (made : Nat) :
    Numbered ids ordered made made [] [] := ⟨.nil, fun _ => rfl, rfl, rfl⟩

theorem keeps_order_begins (job : JobDescriptor) (nodes : List Node) (w : Journal)
    (keeps : s.executor.KeepsOrder s.config.maxParallel nodes.length) :
    s.BeginsInOrder job nodes w := by
  obtain ⟨last, trail, ended, journal⟩ := run_all_trail s s.view job s.config.maxParallel nodes w
  have inOrder : Trail s s.view job Floor.InOrder
      (.entry (s.config.maxParallel.getD nodes.length) nodes w) last :=
    Relation.ReflTransGen.mono (fun _ _ taken => ⟨taken.1, taken.2.inOrder keeps⟩) _ _ trail
  exact ⟨last, inOrder, ended, journal⟩

/-- The runs of a broadcast that have ended with these records number them. -/
theorem run_all_numbered {nodes : List Node} {records : List Execution}
    (results : (s.runAll s.view job s.config.maxParallel nodes w).1 = records.map .ok) :
    ∃ order, Numbered s.ids (s.BeginsInOrder job nodes w) w.idsMade
      (s.runAll s.view job s.config.maxParallel nodes w).2.idsMade records order := by
  by_cases begins : s.BeginsInOrder job nodes w
  · obtain ⟨last, trail, ended, journal⟩ := begins
    rw [results] at ended
    obtain ⟨order, perm, target, numbered, made, -⟩ :=
      ended_in_turn trail (fun (_ : True) _ inOrder => inOrder) ended
    exact ⟨order, perm, fun _ => target trivial, numbered, journal ▸ made⟩
  · obtain ⟨found, order, same, -, -, turns⟩ :=
      run_all_records s s.view job s.config.maxParallel nodes w
    have found : found = records :=
      (List.map_inj_right fun _ _ same => Except.ok.inj same).mp (same.symm.trans results)
    subst found
    exact ⟨order, turns.perm, fun holds => absurd holds begins, turns.numbered, turns.ids⟩

/-- What there is nobody to run on leaves no record, whatever the policy. -/
theorem broadcast_none_records (s : Service) (kind : BroadcastKind) :
    (Answer.broadcast (s.broadcastNone kind)).records = [] := by
  cases policy : s.config.emptyPolicy <;> simp [Service.broadcastNone, policy, Answer.records]

theorem broadcast_numbered {target : BroadcastTarget Node}
    {answer : Except BroadcastFailure BroadcastReport}
    (answered : s.broadcast target job w = (answer, later)) :
    ∃ order, Numbered s.ids
      (∀ report, answer = .ok report →
        s.BeginsInOrder job (distinctNodes target.nodes) w.afterReads)
      w.idsMade later.idsMade (Answer.broadcast answer).records order := by
  cases broadcast_course answered with
  | invalid => exact ⟨[], numbered_none ..⟩
  | nobody =>
    rw [broadcast_none_records]
    exact ⟨[], numbered_none ..⟩
  | stopped => exact ⟨[], numbered_none ..⟩
  | ran valid named within results nodes =>
    obtain ⟨order, perm, target, ids, made⟩ := run_all_numbered results
    exact ⟨order, perm, fun begins => target (begins _ rfl), ids, made⟩

theorem submit_numbered {target : JobTarget} {draw : Nat} {answer : RunResult} (ordered : Prop)
    (answered : s.submit target job draw w = (answer, later)) :
    ∃ order, Numbered s.ids ordered w.idsMade later.idsMade (Answer.submit answer).records
      order := by
  cases submit_course answered with
  | invalid => exact ⟨[], numbered_none ..⟩
  | nobody => exact ⟨[], numbered_none ..⟩
  | @ran node e _ valid named run =>
    obtain ⟨reading, last, record, made, -⟩ := run_one_record s s.view job node w.afterReads
    cases record.symm.trans run
    refine ⟨[_], .refl _, fun _ => rfl, ?_, made⟩
    simp [Service.run_record_id, List.range'_succ]

theorem broadcast_record_nodes (target : BroadcastTarget Node) (job : JobDescriptor) (w : Journal)
    (valid : job.validate = .ok ()) (named : target.nodes ≠ [])
    (within : exceedsPermits s.config.maxParallel = false) :
    (Answer.broadcast (s.broadcast target job w).1).records.map (·.node) =
      distinctNodes target.nodes := by
  obtain ⟨records, -, results, nodes, -⟩ := run_all_records s s.view job s.config.maxParallel
    (distinctNodes target.nodes) w.afterReads
  rw [broadcast_runs s target valid named within results]
  exact nodes

theorem submit_record_count (target : JobTarget) (job : JobDescriptor) (draw : Nat) (w : Journal)
    (valid : job.validate = .ok ()) (named : target ≠ .anyNode []) :
    (Answer.submit (s.submit target job draw w).1).records.length = 1 := by
  cases answered : s.submit target job draw w with
  | mk answer later =>
    cases submit_course answered with
    | invalid refused => cases valid.symm.trans refused
    | nobody _ unnamed => exact absurd unnamed named
    | ran => rfl

theorem perform_keeps (session : Session) (request : Request) :
    (session.perform request).2.service.ids = session.service.ids ∧
      (session.perform request).2.service.executor = session.service.executor := by
  cases request with
  | broadcast | submit | setConfig => exact ⟨rfl, rfl⟩
  | setTopology source =>
    simp only [Session.perform]
    cases source.load <;> exact ⟨rfl, rfl⟩

/-- Every request numbers its records, and makes no other ids. -/
theorem perform_numbered (session : Session) (request : Request) :
    ∃ order, Numbered session.service.ids
      (∀ target job report, request = .broadcast target job →
        (session.perform request).1 = .broadcast (.ok report) →
        session.service.BeginsInOrder job (distinctNodes target.nodes)
          session.journal.afterReads)
      session.journal.idsMade (session.perform request).2.journal.idsMade
      (session.perform request).1.records order := by
  obtain ⟨service, w⟩ := session
  cases request with
  | broadcast target job =>
    obtain ⟨order, perm, ordered, ids, made⟩ :=
      broadcast_numbered (rfl : service.broadcast target job w = (_, _))
    refine ⟨order, perm, fun begins => ordered fun report same => ?_, ids, made⟩
    exact begins target job report rfl (congrArg Answer.broadcast same)
  | submit target job draw => exact submit_numbered _ rfl
  | setTopology source =>
    simp only [Session.perform]
    cases source.load <;> exact ⟨[], numbered_none ..⟩
  | setConfig config => exact ⟨[], numbered_none ..⟩

/-! ### The ids of a history -/

/-- All records that a history returns, request by request. -/
def Session.records (session : Session) (history : List Request) : List Execution :=
  (session.performAll history).1.flatMap (·.1.records)

theorem session_records_cons (session : Session) (request : Request) (rest : List Request) :
    session.records (request :: rest) =
      (session.perform request).1.records ++ (session.perform request).2.records rest := rfl

/-- A history numbers all its records, one request after the other. -/
theorem history_numbered (session : Session) (history : List Request) :
    ∃ order, Numbered session.service.ids (session.BeginsInOrder history)
      session.journal.idsMade (session.performAll history).2.journal.idsMade
      (session.records history) order := by
  induction history generalizing session with
  | nil => exact ⟨[], numbered_none ..⟩
  | cons request rest ih =>
    obtain ⟨first, perm, target, ids, made⟩ := perform_numbered session request
    obtain ⟨others, othersPerm, othersTarget, othersIds, othersMade⟩ :=
      ih (session.perform request).2
    rw [(perform_keeps session request).1] at othersIds
    refine ⟨first ++ others, perm.append othersPerm, ?_, ?_, ?_⟩
    · intro begins
      rw [target begins.1, othersTarget begins.2, session_records_cons]
    · rw [List.map_append, ids, othersIds, made, ← List.map_append, List.length_append,
        List.range'_append_1]
    · simp only [Session.performAll, othersMade, made, List.length_append, Nat.add_assoc]

/-- If no broadcast of a history names more nodes than the executor resumes in order, the
runs of each begin in target order, under every limit. -/
theorem few_nodes_begin_in_order (session : Session) (history : List Request)
    (few : ∀ target job, .broadcast target job ∈ history →
      (distinctNodes target.nodes).length ≤ session.service.executor.inOrder) :
    session.BeginsInOrder history := by
  induction history generalizing session with
  | nil => trivial
  | cons request rest ih =>
    refine ⟨fun target job report same _ => ?_, ih _ fun target job member => ?_⟩
    · subst same
      exact keeps_order_begins _ _ _ (.inr (.inr (few target job List.mem_cons_self)))
    · rw [(perform_keeps session request).2]
      exact few target job (List.mem_cons_of_mem _ member)

/-- The first ids with a common first part: it is followed by one, two and so on. -/
def numberedIds (stem : String) (count : Nat) : List JobId :=
  (List.range count).map fun n => stem ++ "-" ++ toString (n + 1)

/-- Before the counter starts over, its ids are the numbers from one on. -/
theorem sequential_ids_numbered (stem : String) {count : Nat} (few : count < wordCount) :
    (List.range count).map (sequentialId stem) = numberedIds stem count := by
  apply List.map_congr_left
  intro n member
  have inside := List.mem_range.mp member
  rw [sequentialId, Nat.mod_eq_of_lt (by omega)]

theorem numbered_ids_nodup (stem : String) {count : Nat} (few : count < wordCount) :
    (numberedIds stem count).Nodup := by
  rw [← sequential_ids_numbered stem few]
  refine List.Nodup.map_on ?_ List.nodup_range
  intro i left j right same
  have inside := List.mem_range.mp left
  have otherInside := List.mem_range.mp right
  exact ((sequentialId_eq_iff stem i j).mp same).eq_of_lt_of_lt (by omega) (by omega)

/-- **Job ids count the records of a service.** As long as the counter has not started over,
the ids of all records that a service returns in its life are the first ones of the counter,
each of them once. If the runs of its broadcasts begin in target order, that is also the
order in which the records are returned. The counter itself makes equal ids just when it
has come round. -/
theorem job_ids_count_the_records (stem : String) :
    (∀ (service : Service) (history : List Request), service.ids = sequentialId stem →
      ((Session.fresh service).performAll history).2.journal.idsMade < wordCount →
      let ids := ((Session.fresh service).records history).map (·.status.id)
      ids.length = ((Session.fresh service).performAll history).2.journal.idsMade ∧
      ids.Nodup ∧ ids.Perm (numberedIds stem ids.length) ∧
      ((Session.fresh service).BeginsInOrder history → ids = numberedIds stem ids.length)) ∧
    (∀ calls, IdCounter.makeMany calls { stem } = (List.range calls).map (sequentialId stem)) ∧
    ∀ i j, sequentialId stem i = sequentialId stem j ↔ i ≡ j [MOD wordCount] := by
  refine ⟨?_, ?_, sequentialId_eq_iff stem⟩
  · intro service history sequential few
    obtain ⟨order, perm, target, ids, made⟩ :=
      history_numbered (Session.fresh service) history
    have counted : ((Session.fresh service).performAll history).2.journal.idsMade =
        order.length := made.trans (Nat.zero_add _)
    rw [counted] at few ⊢
    have size : order.length =
        (((Session.fresh service).records history).map (·.status.id)).length := by
      rw [List.length_map, perm.length_eq]
    have numbered : order.map (·.status.id) = numberedIds stem order.length := by
      rw [ids, ← sequential_ids_numbered stem few, List.range_eq_range']
      exact congrArg (fun ids => (List.range' 0 order.length).map ids) sequential
    have listed := (perm.map (·.status.id)).symm
    rw [numbered] at listed
    refine ⟨size.symm, listed.nodup_iff.mpr (numbered_ids_nodup stem few), size ▸ listed, ?_⟩
    intro begins
    rw [← size, ← numbered, target begins]
  · intro calls
    rw [List.range_eq_range']
    exact counter_makes stem calls 0

/-- A service with the members `a` and `b`, whose ids count from `job-7-1` on. -/
def countingService : Service := { pairService (some 1) 2 with ids := sequentialId "job-7" }

/-- A job without a name, a broadcast to three nodes, and a submit to a node that is no
member. -/
def countedHistory : List Request := [
  .broadcast mixedTarget ⟨"", [], .null⟩,
  .broadcast mixedTarget ⟨"greet", [], .null⟩,
  .submit (.node (.ofId "c")) ⟨"greet", [], .null⟩ 0]

theorem counted_history_length :
    ((Session.fresh countingService).records countedHistory).length = 4 := by
  have greeted : ((Session.fresh countingService).perform
      (.broadcast mixedTarget ⟨"greet", [], .null⟩)).1.records.length = 3 := by
    have nodes := broadcast_record_nodes (s := countingService) mixedTarget
      ⟨"greet", [], .null⟩ {} rfl (by decide) rfl
    exact (List.length_map (·.node)).symm.trans ((congrArg List.length nodes).trans (by decide))
  have sent (w : Journal) : ((Session.mk countingService w).perform
      (.submit (.node (.ofId "c")) ⟨"greet", [], .null⟩ 0)).1.records.length = 1 :=
    submit_record_count (s := countingService) (.node (.ofId "c")) ⟨"greet", [], .null⟩ 0 w rfl
      (by simp)
  rw [countedHistory, session_records_cons, session_records_cons, session_records_cons,
    List.length_append, List.length_append, List.length_append]
  exact congrArg₂ (fun three one => 0 + (three + (one + 0))) greeted (sent _)

/-- The request that is refused takes no id, the nodes that are no members do. -/
theorem counted_history_ids :
    ((Session.fresh countingService).records countedHistory).map (·.status.id) =
      ["job-7-1", "job-7-2", "job-7-3", "job-7-4"] := by
  have begins : (Session.fresh countingService).BeginsInOrder countedHistory := by
    refine few_nodes_begin_in_order _ _ fun target job member => ?_
    simp only [countedHistory, List.mem_cons, Request.broadcast.injEq, List.not_mem_nil,
      reduceCtorEq, or_false] at member
    obtain ⟨rfl, -⟩ | ⟨rfl, -⟩ := member <;> decide
  obtain ⟨order, perm, -, -, made⟩ :=
    history_numbered (Session.fresh countingService) countedHistory
  have few : ((Session.fresh countingService).performAll countedHistory).2.journal.idsMade <
      wordCount := by
    rw [made, perm.length_eq, counted_history_length]
    decide
  obtain ⟨-, -, -, listed⟩ :=
    (job_ids_count_the_records "job-7").1 countingService countedHistory rfl few
  rw [listed begins, List.length_map, counted_history_length]
  decide

end Fanout
