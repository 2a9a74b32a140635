import Fanout.Proofs.ClockReadings
import Fanout.Proofs.JobIds

/-! The times in the records of a request. The readings that its runs have taken stand in
the records, none of them twice and none left out, so the records tell how often the clock
was read. Records are in time if the clock never goes back, and they are created in the
order in which they are listed if the runs begin in that order. -/
namespace Fanout

/-- The records of a request in the order in which their runs began, each with its readings.
If `ordered` holds that is the order in which the records are listed. -/
structure TimedBy (clock : Nat → Millis) (ordered blocks : Prop) (w later : Journal)
    (records : List Execution) (timed : List (Execution × Stamps)) : Prop where
  perm : (timed.map Prod.fst).Perm records
  target : ordered → timed.map Prod.fst = records
  stamped : ∀ entry ∈ timed, entry.1.StampedBy clock entry.2
  account : Account blocks w.readings later.readings (timed.map Prod.snd)

/-- The readings of a request never go back. -/
def NeverBack (clock : Nat → Millis) (w later : Journal) : Prop :=
  ∀ i j, w.readings ≤ i → i ≤ j → j < later.readings → clock i ≤ clock j

/-- A job that has ended was created before it started, and started before it finished. -/
def JobStatus.InTime (status : JobStatus) : Prop :=
  ∃ finished, status.finishedAt = some finished ∧ status.createdAt ≤ finished ∧
    ∀ started, status.startedAt = some started →
      status.createdAt ≤ started ∧ started ≤ finished

/-- What the records of a request have to do with the clock. If `ordered` holds their runs
began in the order in which they are listed. -/
structure ReadsClock (clock : Nat → Millis) (ordered : Prop) (w later : Journal)
    (records : List Execution) : Prop where
  counted : later.readings = w.readings +
    (3 * records.countP (·.route.isSome) + 2 * records.countP (·.route.isNone))
  timed : ∃ timed, TimedBy clock ordered False w later records timed
  inTime : NeverBack clock w later → ∀ e ∈ records, e.status.InTime
  inOrder : NeverBack clock w later → ordered →
    records.Pairwise fun e next => e.status.createdAt ≤ next.status.createdAt

/-- The times that a record shows. -/
def Execution.times (e : Execution) : Millis × Option Millis × Option Millis :=
  (e.status.createdAt, e.status.startedAt, e.status.finishedAt)

/-- The runs of a schedule take place one after the other in target order: what it comes to
is what some course of steps comes to on which, besides, no two runs are ever under way at
one time. -/
def Service.RunsOneByOne (s : Service) (job : JobDescriptor) (nodes : List Node) (w : Journal) :
    Prop :=
  ∃ last, Trail s s.view job (fun floor => floor.InOrder ∧ floor.underWay ≤ 1)
      (.entry (s.config.maxParallel.getD nodes.length) nodes w) last ∧
    last.EndedWith (s.runAll s.view job s.config.maxParallel nodes w).1 ∧
    last.journal = (s.runAll s.view job s.config.maxParallel nodes w).2

variable {s : Service} {view : View} {job : JobDescriptor} {limit : Option Nat} {permits : Nat}
  {nodes : List Node} {w later : Journal} {floor : Floor} {Kind : Floor → Prop}
  {ordered blocks : Prop} {clock : Nat → Millis} {records : List Execution}
  {timed : List (Execution × Stamps)} {roster : Roster}

/-! ### What the readings say of the records -/

theorem stamped_departed {e : Execution} {stamps : Stamps} (stamped : e.StampedBy clock stamps)
    (departed : e.route = none) : stamps.taken = [stamps.first, stamps.first + 1] ∧
      e.times = (clock stamps.first, none, some (clock (stamps.first + 1))) := by
  obtain ⟨first, last⟩ := stamps
  obtain ⟨created, others⟩ := stamped
  cases last with
  | none =>
    obtain ⟨-, unstarted, finished⟩ := others
    exact ⟨rfl, by rw [Execution.times, created, unstarted, finished]⟩
  | some last =>
    obtain ⟨dispatched, -⟩ := others
    rw [departed] at dispatched
    cases dispatched

theorem stamped_dispatched {e : Execution} {stamps : Stamps} {route : Route}
    (stamped : e.StampedBy clock stamps) (dispatched : e.route = some route) :
    ∃ last, stamps.taken = [stamps.first, stamps.first + 1, last] ∧
      e.times = (clock stamps.first, some (clock (stamps.first + 1)), some (clock last)) := by
  obtain ⟨first, last⟩ := stamps
  obtain ⟨created, others⟩ := stamped
  cases last with
  | none =>
    obtain ⟨departed, -⟩ := others
    rw [dispatched] at departed
    cases departed
  | some last =>
    obtain ⟨-, started, finished, -⟩ := others
    exact ⟨last, rfl, by rw [Execution.times, created, started, finished]⟩

theorem stamped_count (stamped : ∀ entry ∈ timed, entry.1.StampedBy clock entry.2) :
    ((timed.map Prod.snd).flatMap Stamps.taken).length =
      3 * (timed.map Prod.fst).countP (·.route.isSome) +
        2 * (timed.map Prod.fst).countP (·.route.isNone) := by
  induction timed with
  | nil => rfl
  | cons entry rest ih =>
    have others := ih fun entry member => stamped entry (List.mem_cons_of_mem _ member)
    have here := stamped entry List.mem_cons_self
    have taken : entry.2.taken.length =
        3 * (if entry.1.route.isSome then 1 else 0) +
          2 * if entry.1.route.isNone then 1 else 0 := by
      cases route : entry.1.route with
      | none =>
        rw [(stamped_departed here route).1]
        rfl
      | some way =>
        obtain ⟨last, taken, -⟩ := stamped_dispatched here route
        rw [taken]
        rfl
    simp only [List.map_cons, List.flatMap_cons, List.length_append, List.countP_cons, others,
      taken]
    omega

theorem stamped_in_time {e : Execution} {stamps : Stamps} (stamped : e.StampedBy clock stamps)
    (forward : NeverBack clock w later)
    (within : ∀ reading ∈ stamps.taken, w.readings ≤ reading ∧ reading < later.readings) :
    e.status.InTime := by
  obtain ⟨first, last⟩ := stamps
  obtain ⟨created, others⟩ := stamped
  have least := (within first List.mem_cons_self).1
  have second : first + 1 ∈ (Stamps.mk first last).taken :=
    List.mem_cons_of_mem _ List.mem_cons_self
  cases last with
  | none =>
    obtain ⟨-, unstarted, finished⟩ := others
    refine ⟨_, finished, ?_, fun started same => ?_⟩
    · rw [created]
      exact forward _ _ least (Nat.le_succ first) (within _ second).2
    · rw [unstarted] at same
      cases same
  | some last =>
    obtain ⟨-, started, finished, behind⟩ := others
    have most : last < later.readings := (within last (by simp [Stamps.taken])).2
    have third : first + 1 < last := behind
    refine ⟨_, finished, ?_, fun start same => ?_⟩
    · rw [created]
      exact forward _ _ least (Nat.le_of_succ_le (Nat.le_of_lt third)) most
    · cases started.symm.trans same
      rw [created]
      exact ⟨forward _ _ least (Nat.le_succ first) (within _ second).2,
        forward _ _ (Nat.le_succ_of_le least) (Nat.le_of_lt third) most⟩

/-- Records whose readings are accounted for read the clock as they should. -/
theorem timed_reads_clock (kept : TimedBy clock ordered blocks w later records timed) :
    ReadsClock clock ordered w later records := by
  obtain ⟨perm, target, stamped, account⟩ := kept
  have within (entry : Execution × Stamps) (member : entry ∈ timed) :
      ∀ reading ∈ entry.2.taken, w.readings ≤ reading ∧ reading < later.readings :=
    fun reading taken => account_within account (List.mem_map_of_mem member) taken
  refine ⟨?_, ⟨timed, perm, target, stamped, ?_⟩, ?_, ?_⟩
  · rw [account.spent, stamped_count stamped, perm.countP_eq, perm.countP_eq]
  · exact ⟨account.rising, account.taken, False.elim, account.spent⟩
  · intro forward e member
    obtain ⟨entry, listed, rfl⟩ := List.mem_map.mp (perm.symm.subset member)
    exact stamped_in_time (stamped entry listed) forward (within entry listed)
  · intro forward holds
    rw [← target holds, List.pairwise_map]
    have rising := List.pairwise_map.mp account.rising
    refine rising.imp_of_mem fun {entry next} member after earlier => ?_
    rw [(stamped entry member).1, (stamped next after).1]
    exact forward _ _ (within entry member _ List.mem_cons_self).1 (Nat.le_of_lt earlier)
      (within next after _ List.mem_cons_self).2

theorem timed_after_reads (kept : TimedBy clock ordered blocks w.afterReads later records timed) :
    TimedBy clock ordered blocks w later records timed :=
  ⟨kept.perm, kept.target, kept.stamped, kept.account⟩

theorem timed_none (clock : Nat → Millis) (ordered blocks : Prop) (w : Journal) :
    TimedBy clock ordered blocks w w [] [] :=
  ⟨.nil, fun _ => rfl, (fun _ member => nomatch member), account_none ..⟩

/-! ### Any interleaving -/

theorem stamped_records {order : List (Lane × Stamps)}
    (ended : ∀ entry ∈ order, entry.1.stage.hasEnded = true)
    (stamped : ∀ entry ∈ order, entry.1.stage.StampedBy clock entry.2) :
    ∃ timed : List (Execution × Stamps),
      (order.map Prod.fst).map Lane.stage = recordStages (timed.map Prod.fst) ∧
        timed.map Prod.snd = order.map Prod.snd ∧
        ∀ entry ∈ timed, entry.1.StampedBy clock entry.2 := by
  induction order with
  | nil => exact ⟨[], rfl, rfl, fun _ member => nomatch member⟩
  | cons entry rest ih =>
    obtain ⟨timed, stages, readings, others⟩ := ih
      (fun entry member => ended entry (List.mem_cons_of_mem _ member))
      (fun entry member => stamped entry (List.mem_cons_of_mem _ member))
    have done := ended entry List.mem_cons_self
    have here := stamped entry List.mem_cons_self
    cases stage : entry.1.stage with
    | waiting | granted | begun => simp [stage, Stage.hasEnded] at done
    | ended result =>
      rw [stage] at here
      obtain ⟨e, rfl, here⟩ := here
      refine ⟨(e, entry.2) :: timed, ?_, ?_, ?_⟩
      · simp [stage, stages]
      · simp [readings]
      · intro other member
        rcases List.mem_cons.mp member with rfl | member
        · exact here
        · exact others other member

/-- Runs that have ended on a trail have records that share the readings out among them: in
target order if the floors of the trail are in order, and block by block if at most one run
is under way on each of them. -/
theorem ended_timed (trail : Trail s view job Kind (.entry permits nodes w) floor)
    (inOrder : ordered → ∀ passed, Kind passed → passed.InOrder)
    (alone : blocks → ∀ passed, Kind passed → passed.underWay ≤ 1)
    (ended : floor.EndedWith (records.map .ok)) :
    ∃ timed, TimedBy s.clock ordered blocks w floor.journal records timed := by
  have done := ended_of_results ended
  rw [ended_with_iff] at ended
  obtain ⟨-, order, perm, target, stamped, account, -⟩ := trail_reading_order trail inOrder alone
  rw [begun_of_ended done] at perm target
  obtain ⟨timed, stages, readings, shown⟩ := stamped_records
    (fun entry member => done entry.1 (perm.subset (List.mem_map_of_mem member))) stamped
  have listed := (perm.map Lane.stage).filterMap Stage.record?
  rw [stages, ended, record_stages_records, record_stages_records] at listed
  refine ⟨timed, listed, ?_, shown, readings ▸ account⟩
  intro holds
  have same := congrArg (List.filterMap Stage.record?) (stages.symm.trans
    ((congrArg (List.map Lane.stage) (target holds)).trans ended))
  rwa [record_stages_records, record_stages_records] at same

/-! ### Schedules without pauses -/

/-- A run on a roster is under way only while it waits for its dispatch. -/
theorem seat_underWay {entry : Seat × Nat} (member : entry ∈ roster.seats) :
    entry.1.2.underWay = entry.1.2.openCalls := by
  have holders (held : List (Holder × Nat)) (member : entry ∈ holderSeats held) :
      entry.1.2.underWay = entry.1.2.openCalls := by
    obtain ⟨⟨holder, place⟩, -, rfl⟩ := List.mem_map.mp member
    cases holder <;> rfl
  simp only [Roster.seats, List.mem_append] at member
  rcases member with ((waiting | ready) | rested) | ended
  · obtain ⟨_, -, rfl⟩ := List.mem_map.mp waiting
    rfl
  · exact holders _ ready
  · exact holders _ rested
  · obtain ⟨_, -, rfl⟩ := List.mem_map.mp ended
    rfl

theorem unpaused_underWay (follows : Follows limit roster floor) (unpaused : roster.Unpaused) :
    floor.underWay = 0 := by
  refine total_eq_zero fun stage member => ?_
  obtain ⟨lane, inside, rfl⟩ := List.mem_map.mp member
  obtain ⟨index, found⟩ := List.mem_iff_getElem?.mp inside
  have seated : (lane.seat, index) ∈ roster.seats :=
    follows.seats.mem_iff.mpr (mem_lane_seats.mpr ⟨lane, found, rfl⟩)
  exact (seat_underWay seated).trans (unpaused _ seated)

theorem step_underWay {next : Floor} (taken : FloorStep s view job floor next) :
    floor.underWay ≤ next.underWay + 1 := by
  cases taken with
  | @lane free next before after lane moved w later step =>
    have one : lane.stage.underWay ≤ 1 := by cases lane.stage <;> simp [Stage.underWay]
    simp only [Floor.underWay, total_lane]
    omega

/-- A schedule whose dispatches do not pause never has two runs under way at one time. Its
runs take place in target order if the executor keeps the order. -/
theorem unpaused_schedule (s : Service) (view : View) (job : JobDescriptor) (limit : Option Nat)
    (nodes : List Node) (w : Journal) (instant : s.dispatcher.pause = 0) :
    ∃ last, Trail s view job
        (fun floor => (s.executor.KeepsOrder limit nodes.length → floor.InOrder) ∧
          floor.underWay ≤ 1)
        (.entry (limit.getD nodes.length) nodes w) last ∧
      last.EndedWith (s.runAll view job limit nodes w).1 ∧
      last.journal = (s.runAll view job limit nodes w).2 := by
  refine run_all_course s view job limit nodes w fun floor target roster size carried stands => ?_
  rw [← size]
  have resting := unpaused_underWay stands.follows (stands.unpaused instant)
  refine carried_trail carried ⟨(stands_passes stands).inOrder, ?_⟩
    fun passed ends begun opened => ?_
  · rw [resting]
    exact Nat.zero_le 1
  · have one := step_underWay ends
    rw [resting] at one
    exact ⟨(between_passes stands begun opened).inOrder, one⟩

/-- If the executor keeps the order and no dispatch pauses, the runs take place one after the
other in target order. -/
theorem keeps_order_one_by_one (job : JobDescriptor) (nodes : List Node) (w : Journal)
    (keeps : s.executor.KeepsOrder s.config.maxParallel nodes.length)
    (instant : s.dispatcher.pause = 0) : s.RunsOneByOne job nodes w := by
  obtain ⟨last, trail, ended, journal⟩ :=
    unpaused_schedule s s.view job s.config.maxParallel nodes w instant
  have inOrder : Trail s s.view job (fun floor => floor.InOrder ∧ floor.underWay ≤ 1)
      (.entry (s.config.maxParallel.getD nodes.length) nodes w) last :=
    Relation.ReflTransGen.mono (fun _ _ taken => ⟨taken.1, taken.2.1 keeps, taken.2.2⟩) _ _ trail
  exact ⟨last, inOrder, ended, journal⟩

/-! ### Requests -/

/-- The records of a broadcast share out what its runs have read, in target order if the runs
begin in target order. -/
theorem run_all_timed
    (results : (s.runAll s.view job s.config.maxParallel nodes w).1 = records.map .ok) :
    ∃ timed, TimedBy s.clock (s.BeginsInOrder job nodes w) False w
      (s.runAll s.view job s.config.maxParallel nodes w).2 records timed := by
  by_cases begins : s.BeginsInOrder job nodes w
  · obtain ⟨last, trail, ended, journal⟩ := begins
    rw [results] at ended
    exact journal ▸ ended_timed trail (fun _ _ inOrder => inOrder) False.elim ended
  · obtain ⟨last, trail, ended, journal⟩ :=
      run_all_trail s s.view job s.config.maxParallel nodes w
    rw [results] at ended
    exact journal ▸ ended_timed trail (fun holds => absurd holds begins) False.elim ended

theorem run_all_in_blocks (instant : s.dispatcher.pause = 0)
    (results : (s.runAll s.view job s.config.maxParallel nodes w).1 = records.map .ok) :
    ∃ timed, TimedBy s.clock (s.RunsOneByOne job nodes w) True w
      (s.runAll s.view job s.config.maxParallel nodes w).2 records timed := by
  by_cases runs : s.RunsOneByOne job nodes w
  · obtain ⟨last, trail, ended, journal⟩ := runs
    rw [results] at ended
    exact journal ▸ ended_timed trail (fun _ _ kind => kind.1) (fun _ _ kind => kind.2) ended
  · obtain ⟨last, trail, ended, journal⟩ :=
      unpaused_schedule s s.view job s.config.maxParallel nodes w instant
    rw [results] at ended
    exact journal ▸ ended_timed trail (fun holds => absurd holds runs) (fun _ _ kind => kind.2)
      ended

theorem run_one_timed {node : Node} {e : Execution}
    (run : s.runOne view job node w = (.ok e, later)) :
    ∃ timed, TimedBy s.clock True True w later [e] timed := by
  have first := account_begins (account_none True w.readings)
  simp only [Service.runOne] at run
  split at run
  · rename_i result middle begins
    cases run
    obtain ⟨⟨_, same, stamped⟩, readings⟩ := begin_run_stamped begins
    cases same
    refine ⟨[(e, { first := w.readings })], .refl _, fun _ => rfl, ?_, readings ▸ first⟩
    simpa using stamped
  · rename_i pending middle begins
    obtain ⟨begun, readings⟩ := begin_run_stamped begins
    have behind : w.readings + 1 < middle.readings := by omega
    obtain ⟨⟨_, same, stamped⟩, more⟩ := finish_run_stamped run begun behind
    cases same
    have whole := account_ends first rfl fun _ => rfl
    rw [← readings, ← more] at whole
    refine ⟨[(e, { first := w.readings, last := some middle.readings })], .refl _, fun _ => rfl,
      ?_, whole⟩
    simpa using stamped

/-- **Requests read the clock for their records.** Each request takes three readings for a
record with a route and two for one without, the first two of them in a row; its records are
in time if the clock never goes back, and were created in target order if the runs begin in
target order. If no dispatch pauses, the readings of a broadcast are blocks, one for each
record, and in target order if the runs take place in that order; those of a submit always
are. An executor that keeps the order, as it does for all but large broadcasts with a limit,
lets the runs begin and take place in target order. -/
theorem requests_read_the_clock (s : Service) (job : JobDescriptor) (w : Journal) :
    (∀ target report later, s.broadcast target job w = (.ok report, later) →
      ReadsClock s.clock (s.BeginsInOrder job (distinctNodes target.nodes) w.afterReads) w later
          report.executions ∧
        (s.dispatcher.pause = 0 → ∃ timed,
          TimedBy s.clock (s.RunsOneByOne job (distinctNodes target.nodes) w.afterReads) True
            w later report.executions timed)) ∧
    (∀ target draw e later, s.submit target job draw w = (.ok e, later) →
      ReadsClock s.clock True w later [e] ∧
        ∃ timed, TimedBy s.clock True True w later [e] timed) ∧
    ∀ nodes v, s.executor.KeepsOrder s.config.maxParallel nodes.length →
      s.BeginsInOrder job nodes v ∧ (s.dispatcher.pause = 0 → s.RunsOneByOne job nodes v) := by
  refine ⟨?_, ?_, fun nodes v keeps =>
    ⟨keeps_order_begins job nodes v keeps, keeps_order_one_by_one job nodes v keeps⟩⟩
  · intro target report later answered
    rcases broadcast_cases answered with ⟨none, rfl⟩ | ⟨valid, named, within⟩
    · rw [none]
      exact ⟨timed_reads_clock (timed_none s.clock _ False _), fun _ => ⟨[], timed_none ..⟩⟩
    · obtain ⟨records, -, results, -⟩ := run_all_records s s.view job s.config.maxParallel
        (distinctNodes target.nodes) w.afterReads
      cases (broadcast_runs s target valid named within results).symm.trans answered
      obtain ⟨timed, kept⟩ := run_all_timed results
      refine ⟨timed_reads_clock (timed_after_reads kept), fun instant => ?_⟩
      obtain ⟨timed, kept⟩ := run_all_in_blocks instant results
      exact ⟨timed, timed_after_reads kept⟩
  · intro target draw e later answered
    cases submit_course answered with
    | ran valid named run =>
      obtain ⟨timed, kept⟩ := run_one_timed run
      have kept := timed_after_reads kept
      exact ⟨timed_reads_clock kept, timed, kept⟩

/-- A service whose clock ticks with every reading. -/
def tickingService : Service := { pairService (some 1) 0 with clock := fun n => .ofNat n }

/-- The readings of a broadcast to `b`, the departed `c`, and `a`. -/
theorem ticking_pair_reads_in_blocks :
    ∃ report later,
      tickingService.broadcast mixedTarget ⟨"greet", [], .null⟩ {} = (.ok report, later) ∧
      later.readings = 8 ∧
      report.executions.map Execution.times =
        [(0, some 1, some 2), (3, none, some 4), (5, some 6, some 7)] ∧
      ∀ e ∈ report.executions, e.status.InTime := by
  obtain ⟨records, later, reported, nodes, made⟩ := broadcast_reported tickingService mixedTarget
    ⟨"greet", [], .null⟩ {} rfl (by decide) rfl
  obtain ⟨broadcasts, -, ordered⟩ := requests_read_the_clock tickingService ⟨"greet", [], .null⟩ {}
  obtain ⟨reads, blocks⟩ := broadcasts mixedTarget _ later reported
  obtain ⟨timed, -, target, stamped, account⟩ := blocks rfl
  obtain ⟨-, oneByOne⟩ := ordered (distinctNodes mixedTarget.nodes) (Journal.afterReads {})
    (.inr (.inl ⟨1, rfl, Nat.le_refl 1⟩))
  have target : timed.map Prod.fst = records := target (oneByOne rfl)
  have routes : records.map (·.route) = [some .remoteNode, none, some .localNode] := by
    have routed : records.map (·.route) =
        (records.map (·.node)).map (tickingService.view.routeOf ·.id) := by
      rw [List.map_map]
      exact List.map_congr_left fun e member => record_route (made e member)
    rw [routed, nodes]
    decide
  subst target
  rcases timed with _ | ⟨⟨b, ofB⟩, _ | ⟨⟨c, ofC⟩, _ | ⟨⟨a, ofA⟩, _ | _⟩⟩⟩ <;>
    simp only [List.map_cons, List.map_nil, List.cons.injEq, reduceCtorEq, and_false,
      List.nil_eq, and_true] at routes
  obtain ⟨atB, atC, atA⟩ := routes
  simp only [List.forall_mem_cons] at stamped
  obtain ⟨stampedB, stampedC, stampedA, -⟩ := stamped
  obtain ⟨lastB, takenB, timesB⟩ := stamped_dispatched stampedB atB
  obtain ⟨takenC, timesC⟩ := stamped_departed stampedC atC
  obtain ⟨lastA, takenA, timesA⟩ := stamped_dispatched stampedA atA
  have eight : later.readings = 8 := by
    have spent := account.spent
    simpa [takenB, takenC, takenA] using spent
  have inBlocks := account.inBlocks trivial
  simp only [List.map_cons, List.map_nil, List.flatMap_cons, List.flatMap_nil, takenB, takenC,
    takenA, List.cons_append, List.nil_append, List.length_cons, List.length_nil, List.range',
    List.cons.injEq] at inBlocks
  obtain ⟨firstB, -, rfl, firstC, -, firstA, -, rfl, -⟩ := inBlocks
  have forward : NeverBack tickingService.clock {} later := by
    have ticks : ∀ j < 8, ∀ i ≤ j, Int64.ofNat i ≤ Int64.ofNat j := by decide
    intro i j _ earlier within
    exact ticks j (eight ▸ within) i earlier
  refine ⟨_, later, reported, eight, ?_, reads.inTime forward⟩
  simp only [List.map_cons, List.map_nil, timesB, timesC, timesA, firstB, firstC, firstA]
  decide

end Fanout
