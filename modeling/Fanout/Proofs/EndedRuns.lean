import Fanout.Proofs.ScheduleRefinement
import Fanout.Service.Broadcast

/-! What the runs of a broadcast have come to when all have ended. Each of them has a
record of its node, with the route that its view gives to the node, and it has made
just the call that the record tells of. The records in the order in which the runs
began carry consecutive ids. -/
namespace Fanout

/-- The record of a run that has ended with one. -/
def Stage.record? : Stage → Option Execution
  | .ended (.ok e) => some e
  | _ => none

/-- The stages of runs that have ended with these records. -/
def recordStages (records : List Execution) : List Stage := records.map fun e => .ended (.ok e)

/-- The route to a node in a view, if it is a member. -/
def View.routeOf (view : View) (id : NodeId) : Option Route :=
  if view.has id then some (if id = view.localId then .localNode else .remoteNode) else none

/-- The record is that of a run on its node, whenever the run began and ended. -/
def Service.MayRecord (s : Service) (view : View) (job : JobDescriptor) (e : Execution) : Prop :=
  ∃ w now, e = s.runRecord view job e.node w now

variable {s : Service} {view : View} {job : JobDescriptor} {limit : Nat} {nodes : List Node}
  {w : Journal} {floor : Floor} {lanes order : List Lane} {records : List Execution}

@[simp] theorem record_stages_cons (e : Execution) (rest : List Execution) :
    recordStages (e :: rest) = .ended (.ok e) :: recordStages rest := rfl

/-- The calls that records tell of, record by record. -/
theorem told_calls_cons (d : Dispatcher) (e : Execution) (rest : List Execution) :
    (e :: rest).filterMap d.callOf = (d.callOf e).toList ++ rest.filterMap d.callOf := by
  rw [List.filterMap_cons]
  cases d.callOf e <;> rfl

theorem record_stages_records (records : List Execution) :
    (recordStages records).filterMap Stage.record? = records := by
  simp [recordStages, List.filterMap_map, Function.comp_def, Stage.record?]

theorem ended_with_iff : floor.EndedWith (records.map .ok) ↔
    floor.lanes.map Lane.stage = recordStages records := by
  rw [Floor.EndedWith, recordStages, List.map_map]
  rfl

/-- A sound run that has ended has the record of a run on its node, and has made the
calls that the record tells of. -/
theorem sound_ended {lane : Lane} {origin : Journal → Prop}
    (sound : lane.Sound s view job origin) (ended : lane.stage.hasEnded = true) :
    ∃ start reading, origin start ∧
      lane.stage = .ended (.ok (s.runRecord view job lane.node start (s.clock reading))) ∧
      lane.calls = (s.dispatcher.callOf
        (s.runRecord view job lane.node start (s.clock reading))).toList ∧
      lane.idsMade = 1 := by
  cases stage : lane.stage with
  | waiting | granted | begun => simp [stage, Stage.hasEnded] at ended
  | ended result =>
    simp only [Lane.Sound, stage] at sound
    obtain ⟨once, start, reading, from_, rfl, called⟩ := sound
    exact ⟨start, reading, from_, rfl, called, once⟩

theorem run_record_made (node : Node) (now : Millis) :
    s.MayRecord view job (s.runRecord view job node w now) :=
  ⟨w, now, by rw [Service.run_record_node]⟩

theorem record_route {e : Execution} (made : s.MayRecord view job e) :
    e.route = view.routeOf e.node.id := by
  obtain ⟨w, now, same⟩ := made
  have route := s.run_record_route view job e.node w now
  rw [← same] at route
  exact route

/-- A run on its own takes one id and ends with its record and the call that it tells
of. -/
theorem run_one_record (s : Service) (view : View) (job : JobDescriptor) (node : Node)
    (w : Journal) : ∃ reading later,
    s.runOne view job node w =
      (.ok (s.runRecord view job node w (s.clock reading)), later) ∧
    later.idsMade = w.idsMade + 1 ∧
    later.calls = w.calls ++ (s.dispatcher.callOf
      (s.runRecord view job node w (s.clock reading))).toList := by
  simp only [Service.runOne]
  split
  · rename_i result later begins
    obtain ⟨same, ids, effects⟩ := begin_run_adds begins
    obtain ⟨record, uncalled⟩ := settled_record (s.clock 0) same
    refine ⟨0, later, by rw [record], ids, ?_⟩
    rw [Journal.calls_eq effects, uncalled]
    rfl
  · rename_i run later begins
    obtain ⟨same, ids, effects⟩ := begin_run_adds begins
    obtain ⟨record, called⟩ := dispatched_record (w := later) same
    cases finishes : s.finishRun run later with
    | mk result last =>
      have ends := Service.finish_journal finishes
      have silent : last.calls = later.calls := by
        simp [ends, Journal.calls, Effect.calls, Effect.call?]
      rw [finishes] at record
      refine ⟨later.readings, last, congrArg (·, last) record, by rw [ends, ids], ?_⟩
      rw [silent, Journal.calls_eq effects, called, Effect.calls_map_callBegun]
      rfl

/-- Sound runs that have all ended have records of their nodes. -/
theorem sound_records (sound : ∀ lane ∈ lanes, lane.Sound s view job fun _ => True)
    (ended : ∀ lane ∈ lanes, lane.stage.hasEnded = true) :
    ∃ records : List Execution, lanes.map Lane.stage = recordStages records ∧
      records.map (·.node) = lanes.map Lane.node ∧ ∀ e ∈ records, s.MayRecord view job e := by
  induction lanes with
  | nil => exact ⟨[], rfl, rfl, fun _ member => nomatch member⟩
  | cons lane rest ih =>
    obtain ⟨start, reading, -, stage, -⟩ :=
      sound_ended (sound lane List.mem_cons_self) (ended lane List.mem_cons_self)
    obtain ⟨records, stages, named, made⟩ := ih
      (fun lane member => sound lane (List.mem_cons_of_mem _ member))
      (fun lane member => ended lane (List.mem_cons_of_mem _ member))
    refine ⟨s.runRecord view job lane.node start (s.clock reading) :: records, ?_, ?_, ?_⟩
    · simp [stage, stages]
    · simp [named, Service.run_record_node]
    · intro e member
      rcases List.mem_cons.mp member with rfl | member
      · exact run_record_made ..
      · exact made e member

/-- Runs that began in succession and have all ended have records with consecutive ids,
and have made the calls that the records tell of, in that order. -/
theorem succession_records {ids : Nat} {calls : List Call}
    (succession : InSuccession s view job ids calls order)
    (ended : ∀ lane ∈ order, lane.stage.hasEnded = true) :
    ∃ records : List Execution, order.map Lane.stage = recordStages records ∧
      records.map (·.status.id) = (List.range' ids records.length).map s.ids ∧
      order.flatMap Lane.calls = records.filterMap s.dispatcher.callOf := by
  induction order generalizing ids calls with
  | nil => exact ⟨[], rfl, rfl, rfl⟩
  | cons lane rest ih =>
    obtain ⟨sound, succession⟩ := succession
    obtain ⟨start, reading, ⟨made, -⟩, stage, called, -⟩ :=
      sound_ended sound (ended lane List.mem_cons_self)
    obtain ⟨records, stages, numbered, told⟩ := ih succession
      fun lane member => ended lane (List.mem_cons_of_mem _ member)
    refine ⟨s.runRecord view job lane.node start (s.clock reading) :: records, ?_, ?_, ?_⟩
    · simp [stage, stages]
    · simp [numbered, Service.run_record_id, made, List.range'_succ]
    · rw [List.flatMap_cons, told, called, told_calls_cons]

theorem begun_of_ended (ended : ∀ lane ∈ floor.lanes, lane.stage.hasEnded = true) :
    floor.begun = floor.lanes := by
  apply List.filter_eq_self.mpr
  intro lane member
  have done := ended lane member
  cases stage : lane.stage <;> simp [stage, Stage.hasEnded] at done ⊢

theorem ended_of_results {results : List RunResult} (ended : floor.EndedWith results) :
    ∀ lane ∈ floor.lanes, lane.stage.hasEnded = true := by
  intro lane member
  have listed : lane.stage ∈ results.map Stage.ended := ended ▸ List.mem_map_of_mem member
  obtain ⟨result, -, same⟩ := List.mem_map.mp listed
  rw [← same]
  rfl

/-! ### The records of a whole broadcast -/

/-- Whatever the interleaving, all runs end with a record of their node, in target
order. -/
theorem ended_records {results : List RunResult}
    (reached : Reachable s view job (.entry permits nodes w) floor)
    (ended : floor.EndedWith results) :
    ∃ records : List Execution, results = records.map .ok ∧ records.map (·.node) = nodes ∧
      ∀ e ∈ records, s.MayRecord view job e := by
  obtain ⟨records, stages, named, made⟩ :=
    sound_records (reachable_sound reached) (ended_of_results ended)
  refine ⟨records, ?_, named.trans (reachable_nodes reached), made⟩
  rw [Floor.EndedWith, stages] at ended
  refine (List.map_inj_right fun _ _ same => Stage.ended.inj same).mp (ended.symm.trans ?_)
  rw [recordStages, List.map_map]
  rfl

/-- The order in which the runs of some records began: the ids of the records are
consecutive in it, and the calls that the records tell of are all that were made, in
that order. If `ordered` holds it is the target order. -/
structure RunsInTurn (s : Service) (ordered : Prop) (w later : Journal)
    (records order : List Execution) : Prop where
  perm : order.Perm records
  target : ordered → order = records
  numbered : order.map (·.status.id) = (List.range' w.idsMade order.length).map s.ids
  ids : later.idsMade = w.idsMade + order.length
  calls : later.calls = w.calls ++ order.filterMap s.dispatcher.callOf

/-- The runs that have ended on a floor began in some order, in target order if all
floors on the way are in order. -/
theorem ended_in_turn {ordered : Prop} {Kind : Floor → Prop}
    (trail : Trail s view job Kind (.entry permits nodes w) floor)
    (inOrder : ordered → ∀ passed, Kind passed → passed.InOrder)
    (ended : floor.EndedWith (records.map .ok)) :
    ∃ order, RunsInTurn s ordered w floor.journal records order := by
  have done := ended_of_results ended
  rw [ended_with_iff] at ended
  obtain ⟨-, order, perm, target, succession, ids, calls⟩ := trail_begin_order trail inOrder
  rw [begun_of_ended done] at perm target
  obtain ⟨begun, stages, numbered, told⟩ :=
    succession_records succession fun lane member => done lane (perm.subset member)
  have size : order.length = begun.length := by
    simpa [recordStages] using congrArg List.length stages
  have listed := (perm.map Lane.stage).filterMap Stage.record?
  rw [stages, ended, record_stages_records, record_stages_records] at listed
  refine ⟨begun, listed, ?_, numbered, size ▸ ids, told ▸ calls⟩
  intro holds
  have same := congrArg (List.filterMap Stage.record?) (stages.symm.trans
    ((congrArg (List.map Lane.stage) (target holds)).trans ended))
  rwa [record_stages_records, record_stages_records] at same

/-- All runs of the schedule end with a record of their node, in target order. They
begin in some order, in target order if the executor keeps it. -/
theorem run_all_records (s : Service) (view : View) (job : JobDescriptor)
    (limit : Option Nat) (nodes : List Node) (w : Journal) :
    ∃ records order : List Execution,
      (s.runAll view job limit nodes w).1 = records.map .ok ∧
      records.map (·.node) = nodes ∧ (∀ e ∈ records, s.MayRecord view job e) ∧
      RunsInTurn s (s.executor.KeepsOrder limit nodes.length) w
        (s.runAll view job limit nodes w).2 records order := by
  obtain ⟨last, trail, ended, journal⟩ := run_all_trail s view job limit nodes w
  obtain ⟨records, results, named, made⟩ := ended_records (trail_reachable trail) ended
  obtain ⟨order, turns⟩ :=
    ended_in_turn trail (fun keeps _ passes => passes.inOrder keeps) (results ▸ ended)
  exact ⟨records, order, results, named, made, journal ▸ turns⟩

end Fanout
