import Fanout.Proofs.BroadcastRecords
import Fanout.Proofs.FirstTurn

/-! A limit only throttles. While the clock stands still, a broadcast whose runs begin in
target order comes to what its runs come to one after the other: neither the limit nor
the pauses of the dispatcher show in the answer or in the calls. They show in the peak
alone, and there they do exactly as far as they have to. -/
namespace Fanout

/-- Runs a job on one node after the other. -/
def Service.runEach (s : Service) (view : View) (job : JobDescriptor) :
    List Node → Journal → List RunResult × Journal
  | [], w => ([], w)
  | node :: rest, w =>
    let (result, w) := s.runOne view job node w
    let (results, w) := s.runEach view job rest w
    (result :: results, w)

/-- The service with another limit and with a dispatcher that pauses so many times. -/
def Service.throttled (s : Service) (limit : Option Nat) (pause : Nat) : Service :=
  { s with
    config := { s.config with maxParallel := limit }
    dispatcher := { s.dispatcher with pause := pause } }

/-- The peak of the calls to so many members. -/
def throttledPeak (limit : Option Nat) (pause members : Nat) : Nat :=
  if members = 0 then 0 else if pause = 0 then 1 else underLimit limit members

/-- The peak of a broadcast: that of the calls to the distinct members of its target, and
none if the job is refused. -/
def Service.broadcastPeak (s : Service) (target : BroadcastTarget Node) (job : JobDescriptor)
    (limit : Option Nat) (pause : Nat) : Nat :=
  match job.validate with
  | .error _ => 0
  | .ok () => throttledPeak limit pause ((target.nodes.map Node.id).eraseDups.countP s.view.has)

open FirstHandles

variable {s : Service} {view : View} {job : JobDescriptor} {limit : Option Nat} {pause : Nat}
  {nodes : List Node} {w v : Journal} {time : Millis} {target : BroadcastTarget Node}

/-! ### One after the other -/

/-- At a fixed time, the record of a run depends only on the ids and the calls that were
made before it. -/
theorem run_record_congr (fixed : ∀ n, s.clock n = time) (node : Node) (now : Millis)
    (ids : v.idsMade = w.idsMade) (calls : v.calls = w.calls) :
    s.runRecord view job node v now = s.runRecord view job node w now := by
  simp only [Service.runRecord, Service.memberRun, Service.departedRecord, fixed, ids, calls]

theorem run_each_records (s : Service) (view : View) (job : JobDescriptor) (nodes : List Node)
    (w : Journal) : ∃ records : List Execution,
    (s.runEach view job nodes w).1 = records.map .ok ∧
    (s.runEach view job nodes w).2.calls = w.calls ++ records.filterMap s.dispatcher.callOf ∧
    (s.runEach view job nodes w).2.idsMade = w.idsMade + nodes.length := by
  induction nodes generalizing w with
  | nil => exact ⟨[], rfl, by simp [Service.runEach], rfl⟩
  | cons node rest ih =>
    obtain ⟨reading, later, record, ids, calls⟩ := run_one_record s view job node w
    obtain ⟨records, results, told, made⟩ := ih later
    refine ⟨s.runRecord view job node w (s.clock reading) :: records, ?_, ?_, ?_⟩
    · simp [Service.runEach, record, results]
    · simp only [Service.runEach, record, told, calls, told_calls_cons, List.append_assoc]
    · simp only [Service.runEach, record, made, ids, List.length_cons]
      omega

/-- Runs that began in succession and have ended have come to what they come to one after
the other, if the clock stands still. -/
theorem succession_run_each {order : List Lane} (fixed : ∀ n, s.clock n = time)
    (succession : InSuccession s view job w.idsMade w.calls order)
    (ended : ∀ lane ∈ order, lane.stage.hasEnded = true) :
    order.map Lane.stage = (s.runEach view job (order.map Lane.node) w).1.map .ended ∧
      w.calls ++ order.flatMap Lane.calls =
        (s.runEach view job (order.map Lane.node) w).2.calls := by
  induction order generalizing w with
  | nil => simp [Service.runEach]
  | cons lane rest ih =>
    obtain ⟨sound, succession⟩ := succession
    obtain ⟨start, reading, ⟨made, known⟩, stage, called, -⟩ :=
      sound_ended sound (ended lane List.mem_cons_self)
    obtain ⟨moment, later, record, ids, calls⟩ := run_one_record s view job lane.node w
    rw [fixed, run_record_congr fixed lane.node time made known] at stage called
    rw [fixed] at record calls
    rw [← ids, called, ← calls] at succession
    obtain ⟨stages, told⟩ := ih succession fun lane member =>
      ended lane (List.mem_cons_of_mem _ member)
    simp only [List.map_cons, List.flatMap_cons, Service.runEach, record]
    rw [stage, stages, called, ← List.append_assoc, ← calls, told]
    exact ⟨rfl, rfl⟩

/-- **A schedule that keeps the order is a loop.** With a clock that stands still, what a
schedule comes to is what the runs come to one after the other. -/
theorem run_all_run_each (view : View) (job : JobDescriptor) (w : Journal)
    (fixed : ∀ n, s.clock n = time)
    (keeps : s.executor.KeepsOrder limit nodes.length) :
    (s.runAll view job limit nodes w).1 = (s.runEach view job nodes w).1 ∧
      (s.runAll view job limit nodes w).2.calls = (s.runEach view job nodes w).2.calls ∧
      (s.runAll view job limit nodes w).2.idsMade = (s.runEach view job nodes w).2.idsMade := by
  obtain ⟨last, trail, ended, journal⟩ := run_all_trail s view job limit nodes w
  have done := ended_of_results ended
  obtain ⟨-, order, -, target, succession, ids, calls⟩ :=
    trail_begin_order trail fun keeps _ passes => passes.inOrder keeps
  cases (target keeps).trans (begun_of_ended done)
  have placed := reachable_nodes (trail_reachable trail)
  obtain ⟨stages, told⟩ := succession_run_each fixed succession done
  obtain ⟨-, -, -, made⟩ := run_each_records s view job nodes w
  rw [placed] at stages told
  rw [Floor.EndedWith, stages] at ended
  refine ⟨?_, ?_, ?_⟩
  · exact ((List.map_inj_right fun _ _ same => Stage.ended.inj same).mp ended).symm
  · rw [← journal, calls, told]
  · rw [← journal, ids, made, ← placed, List.length_map]

/-! ### The peak -/

theorem call_of_none {d : Dispatcher} {e : Execution} (untold : d.callOf e = none) :
    e.route = none := by
  simp only [Dispatcher.callOf] at untold
  split at untold
  · assumption
  · cases untold
  · cases untold

theorem run_all_called {more : List Effect}
    (extended : (s.runAll view job limit nodes w).2.effects = w.effects ++ more)
    (reachable : 0 < nodes.countP (view.has ·.id)) : Effect.calls more ≠ [] := by
  obtain ⟨records, order, -, named, made, turns⟩ := run_all_records s view job limit nodes w
  obtain ⟨node, listed, member⟩ := List.countP_pos_iff.mp reachable
  rw [← named] at listed
  obtain ⟨e, recorded, rfl⟩ := List.mem_map.mp listed
  have route := record_route (made e recorded)
  have calls := turns.calls
  rw [Journal.calls_eq extended, List.append_right_inj] at calls
  rw [calls]
  intro none
  have untold := List.filterMap_eq_nil_iff.mp none e (turns.perm.mem_iff.mpr recorded)
  rw [call_of_none untold, View.routeOf, member] at route
  cases route

/-- On the way of a schedule never more calls are open than its peak allows. -/
theorem passes_openCalls_le {floor : Floor}
    (reached : Reachable s view job (.entry (limit.getD nodes.length) nodes w) floor)
    (passes : s.Passes limit nodes.length floor) :
    floor.openCalls ≤ throttledPeak limit s.dispatcher.pause (nodes.countP (view.has ·.id)) := by
  have members := reachable_openCalls_le_members reached
  have permits := reachable_openCalls_le reached
  unfold throttledPeak
  split
  · omega
  · split
    · exact passes.alone ‹_›
    · cases limit with
      | none => exact members
      | some n => exact Nat.le_min.mpr ⟨permits, members⟩

/-- The peak of a schedule, if no run is made to rest before it has begun. -/
theorem run_all_peak (view : View) (job : JobDescriptor) (w : Journal)
    (unforced : s.executor.Unforced limit nodes.length) :
    ∃ more, (s.runAll view job limit nodes w).2.effects = w.effects ++ more ∧
      Effect.reads more = [] ∧
      Effect.peak 0 more =
        throttledPeak limit s.dispatcher.pause (nodes.countP (view.has ·.id)) := by
  obtain ⟨last, trail, -, journal⟩ := run_all_trail s view job limit nodes w
  obtain ⟨more, extended, unread, -, highest⟩ :=
    trail_effects trail fun _ reached passes => passes_openCalls_le reached passes
  rw [journal] at extended
  refine ⟨more, extended, unread, Nat.le_antisymm highest ?_⟩
  unfold throttledPeak
  split
  · exact Nat.zero_le _
  · rename_i some
    split
    · exact Effect.one_le_peak 0 (run_all_called extended (Nat.pos_of_ne_zero some))
    · rename_i pauses
      have turn := entry_first_turn nodes w unforced
      have reaches :=
        first_turn_peak view job limit nodes.length (Nat.pos_of_ne_zero pauses) turn
      have due : (Roster.entry nodes (s.executor.allowance limit)).due view =
          nodes.countP (view.has ·.id) := by
        have places := List.countP_map (p := fun n : Node => view.has n.id) (f := Prod.fst)
          (l := nodes.zipIdx)
        rw [List.zipIdx_map_fst] at places
        simp [Roster.due, Roster.entry, places, Function.comp_def]
      have since : (s.runAll view job limit nodes w).2.since w = more := Journal.since_eq extended
      rw [Service.runAll] at since
      rw [since, due] at reaches
      simpa [Roster.entry] using reaches

/-! ### The whole request -/

theorem throttled_run_each (limit : Option Nat) (pause : Nat) :
    (s.throttled limit pause).runEach view job nodes w = s.runEach view job nodes w := by
  induction nodes generalizing w with
  | nil => rfl
  | cons node rest ih =>
    simp only [Service.runEach, ih]
    rfl

theorem distinct_members (nodes : List Node) (view : View) :
    (distinctNodes nodes).countP (view.has ·.id) =
      (nodes.map Node.id).eraseDups.countP view.has := by
  rw [← distinct_nodes_ids, List.countP_map]
  rfl

theorem throttled_runs {records : List Execution} (fixed : ∀ n, s.clock n = time)
    (valid : job.validate = .ok ()) (named : target.nodes ≠ [])
    (within : ∀ n, limit = some n → n ≤ maxPermits)
    (unforced : s.executor.Unforced limit (distinctNodes target.nodes).length)
    (results : (s.runEach s.view job (distinctNodes target.nodes) w.afterReads).1 =
      records.map .ok)
    (told : (s.runEach s.view job (distinctNodes target.nodes) w.afterReads).2.calls =
      w.afterReads.calls ++ records.filterMap s.dispatcher.callOf) :
    ∃ later, (s.throttled limit pause).broadcast target job w =
        (.ok ⟨target.kind, records⟩, later) ∧
      Effect.calls (later.since w) = records.filterMap s.dispatcher.callOf ∧
      Effect.reads (later.since w) = [.readLocal, .readMembers] ∧
      later.idsMade =
        (s.runEach s.view job (distinctNodes target.nodes) w.afterReads).2.idsMade ∧
      Effect.peak 0 (later.since w) = s.broadcastPeak target job limit pause := by
  obtain ⟨same, called, ids⟩ := run_all_run_each (s := s.throttled limit pause) s.view job
    w.afterReads fixed (unforced_keeps_order unforced)
  rw [throttled_run_each] at same called ids
  obtain ⟨more, extended, unread, peak⟩ :=
    run_all_peak (s := s.throttled limit pause) s.view job w.afterReads unforced
  have reported := broadcast_runs (s.throttled limit pause) target valid named
    (within_permits.mpr within) (same.trans results)
  rw [Journal.calls_eq extended, told, List.append_right_inj] at called
  rw [afterReads_effects, List.append_assoc] at extended
  have since := Journal.since_eq extended
  refine ⟨((s.throttled limit pause).runAll s.view job limit (distinctNodes target.nodes)
    w.afterReads).2, reported, ?_, ?_, ids, ?_⟩
  · rw [since, Effect.calls_append, called]
    rfl
  · rw [since, Effect.reads_append, unread]
    rfl
  · rw [since, Effect.peak_append, Service.broadcastPeak, valid, ← distinct_members]
    exact (Nat.zero_max _).trans peak

/-- There is one answer, one list of calls and one list of reads for all limits and all
pauses. -/
theorem one_outcome (s : Service) (target : BroadcastTarget Node) (job : JobDescriptor)
    (w : Journal) (fixed : ∀ n, s.clock n = time) :
    ∃ answer calls reads ids, ∀ limit pause, (∀ n, limit = some n → n ≤ maxPermits) →
      s.executor.Unforced limit (distinctNodes target.nodes).length →
      ∃ later, (s.throttled limit pause).broadcast target job w = (answer, later) ∧
        Effect.calls (later.since w) = calls ∧ Effect.reads (later.since w) = reads ∧
        later.idsMade = ids ∧
        Effect.peak 0 (later.since w) = s.broadcastPeak target job limit pause := by
  cases valid : job.validate with
  | error violation =>
    refine ⟨.error (.refused (.domain violation)), [], [], w.idsMade, fun limit pause _ _ =>
      ⟨w, ?_, ?_⟩⟩
    · simp only [Service.broadcast, valid]
    · rw [Journal.since_self, Service.broadcastPeak, valid]
      exact ⟨rfl, rfl, rfl, rfl⟩
  | ok =>
    by_cases named : target.nodes = []
    · refine ⟨s.broadcastNone target.kind, [], [], w.idsMade, fun limit pause _ _ => ⟨w, ?_, ?_⟩⟩
      · simp only [Service.broadcast, valid, distinct_nodes_eq_nil_iff.mpr named]
        rfl
      · rw [Journal.since_self, Service.broadcastPeak, valid, named]
        exact ⟨rfl, rfl, rfl, rfl⟩
    · obtain ⟨records, results, told, -⟩ :=
        run_each_records s s.view job (distinctNodes target.nodes) w.afterReads
      exact ⟨_, _, _, _, fun limit pause within unforced =>
        throttled_runs fixed valid named within unforced results told⟩

/-- **The limit is only a throttle.** While the clock stands still and no run is made to
rest before it has begun, two broadcasts that differ in the limit and in the pauses of
the dispatcher have the same answer, and make the same calls and the same reads in the
same order. Each of them has the peak that its limit and its pauses give. -/
theorem limit_only_throttles (s : Service) (target : BroadcastTarget Node)
    (job : JobDescriptor) (w : Journal) (time : Millis) (limit other : Option Nat)
    (pause otherPause : Nat) (fixed : ∀ n, s.clock n = time)
    (within : ∀ n, limit = some n → n ≤ maxPermits)
    (otherWithin : ∀ n, other = some n → n ≤ maxPermits)
    (unforced : s.executor.Unforced limit (distinctNodes target.nodes).length)
    (otherUnforced : s.executor.Unforced other (distinctNodes target.nodes).length) :
    ∃ answer later otherLater,
      (s.throttled limit pause).broadcast target job w = (answer, later) ∧
      (s.throttled other otherPause).broadcast target job w = (answer, otherLater) ∧
      Effect.calls (later.since w) = Effect.calls (otherLater.since w) ∧
      Effect.reads (later.since w) = Effect.reads (otherLater.since w) ∧
      later.idsMade = otherLater.idsMade ∧
      Effect.peak 0 (later.since w) = s.broadcastPeak target job limit pause ∧
      Effect.peak 0 (otherLater.since w) = s.broadcastPeak target job other otherPause := by
  obtain ⟨answer, calls, reads, ids, outcome⟩ := one_outcome s target job w fixed
  obtain ⟨later, answered, called, read, made, peak⟩ := outcome limit pause within unforced
  obtain ⟨otherLater, otherAnswered, otherCalled, otherRead, otherMade, otherPeak⟩ :=
    outcome other otherPause otherWithin otherUnforced
  exact ⟨answer, later, otherLater, answered, otherAnswered, called.trans otherCalled.symm,
    read.trans otherRead.symm, made.trans otherMade.symm, peak, otherPeak⟩

/-- Without a limit both members of the mixed target are called at the same time, and
with a limit of zero one after the other; nothing else differs. -/
theorem mixed_target_throttled :
    ∃ answer later otherLater,
      ((pairService none 0).throttled none 2).broadcast mixedTarget ⟨"greet", [], .null⟩ {} =
        (answer, later) ∧
      ((pairService none 0).throttled (some 0) 3).broadcast mixedTarget ⟨"greet", [], .null⟩ {} =
        (answer, otherLater) ∧
      Effect.calls (later.since {}) = Effect.calls (otherLater.since {}) ∧
      Effect.peak 0 (later.since {}) = 2 ∧ Effect.peak 0 (otherLater.since {}) = 1 := by
  obtain ⟨answer, later, otherLater, answered, otherAnswered, called, -, -, peak, otherPeak⟩ :=
    limit_only_throttles (pairService none 0) mixedTarget ⟨"greet", [], .null⟩ {} 0 none (some 0)
      2 3 (fun _ => rfl) (fun _ same => nomatch same) (fun _ same => by cases same; decide)
      (fun _ same => nomatch same) (fun _ same => by cases same; decide)
  exact ⟨answer, later, otherLater, answered, otherAnswered, called, peak.trans (by decide),
    otherPeak.trans (by decide)⟩

/-- A broadcast of a job without a name is refused before any call, whoever its target
names, so it does not have the peak of the calls to them. -/
theorem refused_broadcast_without_peak :
    ∃ answer later,
      (pairService none 0).broadcast mixedTarget ⟨"", [], .null⟩ {} = (answer, later) ∧
      0 < (mixedTarget.nodes.map Node.id).eraseDups.countP (pairService none 0).view.has ∧
      Effect.peak 0 (later.since {}) ≠ throttledPeak none 0
        ((mixedTarget.nodes.map Node.id).eraseDups.countP (pairService none 0).view.has) :=
  ⟨_, {}, rfl, by decide, by decide⟩

end Fanout
