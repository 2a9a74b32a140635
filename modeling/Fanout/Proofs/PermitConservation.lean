import Fanout.Proofs.BroadcastRecords

/-! The permits of a broadcast with a limit, in every interleaving of its runs. None is
lost, so a run that has not ended never waits in vain: either a permit is free for it,
or a run holds one and can come to its end, when it gives the permit back. -/
namespace Fanout

open Relation

variable {s : Service} {view : View} {job : JobDescriptor} {limit : Nat} {nodes : List Node}
  {w : Journal} {floor : Floor}

namespace Floor

/-- The next step may grant a free permit to a run that waits. -/
def MayGrant (s : Service) (view : View) (job : JobDescriptor) (floor : Floor) : Prop :=
  ∃ before lane after granted free,
    floor.lanes = before ++ lane :: after ∧ lane.stage = .waiting ∧
    granted.stage = .granted ∧ floor.free = free + 1 ∧
    FloorStep s view job floor ⟨free, before ++ granted :: after, floor.journal⟩

/-- A run holds a permit, and by steps of its own it may end, when the permit is free
again. -/
def MayEnd (s : Service) (view : View) (job : JobDescriptor) (floor : Floor) : Prop :=
  ∃ before lane after ended later,
    floor.lanes = before ++ lane :: after ∧ lane.stage.held = 1 ∧
    ended.stage.hasEnded = true ∧ ended.node = lane.node ∧
    ReflTransGen (FloorStep s view job) floor ⟨floor.free + 1, before ++ ended :: after, later⟩

/-- What is true of a broadcast with a limit at any time since a journal. -/
structure Accounted (s : Service) (view : View) (job : JobDescriptor) (limit : Nat)
    (nodes : List Node) (w : Journal) (floor : Floor) : Prop where
  /-- Every permit is either free or held by a run. -/
  permits : floor.free + floor.held = max limit 1
  /-- The calls that have begun and not ended are those of the runs that hold a permit
  for one, so there are never more of them than permits, -/
  opened : Effect.openAfter 0 (floor.journal.since w) = floor.openCalls
  bounded : floor.openCalls ≤ max limit 1
  /-- and there never were more before. -/
  peak : Effect.peak 0 (floor.journal.since w) ≤ max limit 1
  /-- No run that has not ended is stuck. -/
  live : (∃ lane ∈ floor.lanes, lane.stage.hasEnded = false) →
    floor.MayGrant s view job ∨ floor.MayEnd s view job
  /-- Every run has made at most one job id and at most one call, -/
  once : ∀ lane ∈ floor.lanes, lane.idsMade ≤ 1 ∧ lane.calls.length ≤ 1
  /-- and nobody else has made any. -/
  ids : floor.journal.idsMade = w.idsMade + Stage.total (fun stage => stage.hasBegun.toNat)
    (floor.lanes.map Lane.stage)
  calls : (Effect.calls (floor.journal.since w)).Perm (floor.lanes.flatMap Lane.calls)
  /-- When all runs have ended, every permit is free again, every run has made its id, and
  the records that are returned stand in target order. -/
  done : (∀ lane ∈ floor.lanes, lane.stage.hasEnded = true) →
    floor.free = max limit 1 ∧ (∀ lane ∈ floor.lanes, lane.idsMade = 1) ∧
    floor.journal.idsMade = w.idsMade + nodes.length ∧
    ∃ results records, floor.EndedWith results ∧ collect results = .ok records ∧
      records.map (·.node) = nodes

end Floor

/-! ### No run is stuck -/

theorem begun_can_end (s : Service) (view : View) (job : JobDescriptor) (free : Nat)
    (before after : List Lane) (w : Journal) {lane : Lane} {start : Begun}
    (begun : lane.stage = .begun start) :
    ∃ ended later, ended.stage.hasEnded = true ∧ ended.node = lane.node ∧
      FloorStep s view job ⟨free, before ++ lane :: after, w⟩
        ⟨free + 1, before ++ ended :: after, later⟩ := by
  cases start with
  | settled result =>
    exact ⟨lane.reach (.ended result) w w, w, rfl, rfl, .lane (.settle begun)⟩
  | dispatched run =>
    cases finishes : s.finishRun run w with
    | mk result later =>
      exact ⟨lane.reach (.ended result) w later, later, rfl, rfl,
        .lane (.finish begun finishes)⟩

/-- Whoever holds a permit can end, whatever the others do. -/
theorem holder_may_end {lane : Lane} (s : Service) (view : View) (job : JobDescriptor)
    (listed : lane ∈ floor.lanes) (holds : lane.stage.held = 1) :
    floor.MayEnd s view job := by
  obtain ⟨free, lanes, w⟩ := floor
  obtain ⟨before, after, rfl⟩ := List.append_of_mem listed
  cases stage : lane.stage with
  | waiting | ended => simp [stage, Stage.held] at holds
  | begun start =>
    obtain ⟨ended, later, final, same, ends⟩ :=
      begun_can_end s view job free before after w stage
    exact ⟨before, lane, after, ended, later, rfl, holds, final, same, .single ends⟩
  | granted =>
    cases begins : s.beginRun view job lane.node w with
    | mk start between =>
      have starts : FloorStep s view job ⟨free, before ++ lane :: after, w⟩
          ⟨free, before ++ lane.reach (.begun start) w between :: after, between⟩ :=
        .lane (.start stage begins)
      obtain ⟨ended, later, final, same, ends⟩ := begun_can_end s view job free before after between
        (show (lane.reach (.begun start) w between).stage = .begun start from rfl)
      exact ⟨before, lane, after, ended, later, rfl, holds, final, same,
        .tail (.single starts) ends⟩

theorem waiting_may_grant {lane : Lane} (s : Service) (view : View) (job : JobDescriptor)
    (listed : lane ∈ floor.lanes) (waits : lane.stage = .waiting) (free : 0 < floor.free) :
    floor.MayGrant s view job := by
  obtain ⟨permits, lanes, w⟩ := floor
  obtain ⟨before, after, rfl⟩ := List.append_of_mem listed
  cases permits with
  | zero => exact absurd free (Nat.lt_irrefl 0)
  | succ rest => exact ⟨before, lane, after, _, rest, rfl, waits, rfl, rfl, .lane (.grant waits)⟩

/-- Since no permit is lost, no run that has not ended is stuck. -/
theorem reachable_live (reached : Reachable s view job (.entry limit nodes w) floor)
    (unfinished : ∃ lane ∈ floor.lanes, lane.stage.hasEnded = false) :
    floor.MayGrant s view job ∨ floor.MayEnd s view job := by
  by_cases someone : ∃ lane ∈ floor.lanes, lane.stage.held = 1
  · obtain ⟨lane, listed, holds⟩ := someone
    exact .inr (holder_may_end s view job listed holds)
  · have unheld (lane : Lane) (listed : lane ∈ floor.lanes) : lane.stage.held = 0 := by
      have other : lane.stage.held ≠ 1 := fun holds => someone ⟨lane, listed, holds⟩
      cases stage : lane.stage <;> simp [stage, Stage.held] at other ⊢
    have nobody : floor.held = 0 := by
      rw [held_eq_total]
      apply total_eq_zero
      intro stage member
      obtain ⟨lane, listed, rfl⟩ := List.mem_map.mp member
      exact unheld lane listed
    have permits := reachable_permits reached
    obtain ⟨lane, listed, unended⟩ := unfinished
    have idle := unheld lane listed
    refine .inl (waiting_may_grant s view job listed ?_ (by omega))
    cases stage : lane.stage <;> simp [stage, Stage.held, Stage.hasEnded] at idle unended ⊢

/-! ### Every course ends -/

/-- The steps that a run still takes. -/
def Stage.stepsLeft : Stage → Nat
  | .waiting => 3
  | .granted => 2
  | .begun _ => 1
  | .ended _ => 0

/-- The steps that all runs still take together. -/
def Floor.stepsLeft (floor : Floor) : Nat :=
  Stage.total Stage.stepsLeft (floor.lanes.map Lane.stage)

/-- Whoever takes a step, one step less is left, so every course of steps ends. -/
theorem step_stepsLeft {next : Floor} (taken : FloorStep s view job floor next) :
    next.stepsLeft + 1 = floor.stepsLeft := by
  cases taken with
  | @lane free after before rest lane moved v later step =>
    have less : moved.stage.stepsLeft + 1 = lane.stage.stepsLeft := by
      cases step with
      | grant waits => simp [Lane.reach, waits, Stage.stepsLeft]
      | start granted begins => simp [Lane.reach, granted, Stage.stepsLeft]
      | settle settled => simp [Lane.reach, settled, Stage.stepsLeft]
      | finish dispatched finishes => simp [Lane.reach, dispatched, Stage.stepsLeft]
    simp only [Floor.stepsLeft, total_lane]
    omega

theorem reachable_steps (reached : Reachable s view job (.entry limit nodes w) floor)
    (unfinished : ∃ lane ∈ floor.lanes, lane.stage.hasEnded = false) :
    ∃ next, FloorStep s view job floor next := by
  rcases reachable_live reached unfinished with grants | ends
  · obtain ⟨_, _, _, _, _, -, -, -, -, taken⟩ := grants
    exact ⟨_, taken⟩
  · obtain ⟨_, _, _, _, _, -, -, -, -, course⟩ := ends
    rcases ReflTransGen.cases_head course with same | ⟨next, taken, -⟩
    · have more := congrArg Floor.free same
      simp at more
    · exact ⟨next, taken⟩

/-- From wherever a broadcast has come to, it can come to the end of all runs, and since
every step leaves one less, whoever carries it on does come there. -/
theorem reachable_completes (reached : Reachable s view job (.entry limit nodes w) floor) :
    ∃ last, ReflTransGen (FloorStep s view job) floor last ∧
      ∀ lane ∈ last.lanes, lane.stage.hasEnded = true := by
  induction left : floor.stepsLeft generalizing floor with
  | zero =>
    refine ⟨floor, .refl, ?_⟩
    intro lane listed
    apply Classical.byContradiction
    intro unended
    obtain ⟨next, taken⟩ :=
      reachable_steps reached ⟨lane, listed, Bool.not_eq_true _ ▸ unended⟩
    have less := step_stepsLeft taken
    omega
  | succ steps ih =>
    by_cases unfinished : ∃ lane ∈ floor.lanes, lane.stage.hasEnded = false
    · obtain ⟨next, taken⟩ := reachable_steps reached unfinished
      have less := step_stepsLeft taken
      obtain ⟨last, course, ended⟩ := ih (.step reached taken) (by omega)
      exact ⟨last, .head taken course, ended⟩
    · refine ⟨floor, .refl, ?_⟩
      intro lane listed
      apply Classical.byContradiction
      intro unended
      exact unfinished ⟨lane, listed, Bool.not_eq_true _ ▸ unended⟩

/-! ### What the runs have made -/

theorem begun_length (floor : Floor) : floor.begun.length =
    Stage.total (fun stage => stage.hasBegun.toNat) (floor.lanes.map Lane.stage) := by
  rw [Floor.begun]
  induction floor.lanes with
  | nil => rfl
  | cons lane rest ih =>
    cases begun : lane.stage.hasBegun <;> simp [Stage.total, begun, ih, Nat.add_comm]

/-- A run that has not begun has made no call. -/
theorem begun_calls (sound : ∀ lane ∈ floor.lanes, lane.Sound s view job fun _ => True) :
    floor.begun.flatMap Lane.calls = floor.lanes.flatMap Lane.calls := by
  rw [Floor.begun]
  generalize floor.lanes = lanes at sound
  induction lanes with
  | nil => rfl
  | cons lane rest ih =>
    have here := sound lane List.mem_cons_self
    have there := ih fun lane member => sound lane (List.mem_cons_of_mem _ member)
    cases stage : lane.stage with
    | waiting | granted =>
      simp only [Lane.Sound, stage] at here
      simp [stage, here, there]
    | begun | ended => simp [stage, there]

theorem ended_unheld (ended : ∀ lane ∈ floor.lanes, lane.stage.hasEnded = true) :
    floor.held = 0 := by
  rw [held_eq_total]
  apply total_eq_zero
  intro stage member
  obtain ⟨lane, listed, rfl⟩ := List.mem_map.mp member
  have final := ended lane listed
  cases stage : lane.stage <;> simp [stage, Stage.held, Stage.hasEnded] at final ⊢

theorem reachable_accounted (reached : Reachable s view job (.entry limit nodes w) floor) :
    floor.Accounted s view job limit nodes w := by
  have sound := reachable_sound reached
  have permits := reachable_permits reached
  obtain ⟨more, extended, -, opened, peak⟩ := trail_effects (reachable_trail reached)
    fun _ passed _ => reachable_openCalls_le passed
  obtain ⟨-, order, perm, -, -, ids, calls⟩ :=
    trail_begin_order (reachable_trail reached) fun impossible : False => impossible.elim
  rw [perm.length_eq, begun_length] at ids
  refine ⟨permits, ?_, reachable_openCalls_le reached, ?_, reachable_live reached, ?_, ids, ?_,
    ?_⟩
  · rw [Journal.since_eq extended, opened]
  · rw [Journal.since_eq extended]
    exact peak
  · intro lane member
    exact sound_at_most_once (sound lane member)
  · rw [Journal.calls_eq extended, List.append_right_inj] at calls
    rw [Journal.since_eq extended, calls, ← begun_calls sound]
    exact perm.flatMap_right Lane.calls
  · intro ended
    obtain ⟨records, stages, named, -⟩ := sound_records sound ended
    refine ⟨?_, ?_, ?_, _, records, ended_with_iff.mpr stages, collect_records records,
      named.trans (reachable_nodes reached)⟩
    · rw [ended_unheld ended] at permits
      exact permits
    · intro lane member
      obtain ⟨-, -, -, -, -, once⟩ := sound_ended (sound lane member) (ended lane member)
      exact once
    · rw [ids, ← begun_length, begun_of_ended ended, ← reachable_nodes reached, List.length_map]

/-- **Permits are conserved in every interleaving.** Whatever a broadcast with a limit
may come to, its permits, ids and calls are accounted for and no run is stuck. What the
service does itself is one of these interleavings, up to the end of all runs. -/
theorem every_interleaving_accounted (s : Service) (view : View) (job : JobDescriptor)
    (limit : Nat) (nodes : List Node) (w : Journal) :
    (∀ floor, Reachable s view job (.entry limit nodes w) floor →
      floor.Accounted s view job limit nodes w) ∧
    ∃ last, Reachable s view job (.entry limit nodes w) last ∧
      last.EndedWith (s.runAll view job (some limit) nodes w).1 ∧
      last.journal = (s.runAll view job (some limit) nodes w).2 := by
  refine ⟨fun floor reached => reachable_accounted reached, ?_⟩
  obtain ⟨last, trail, ended, journal⟩ := run_all_trail s view job (some limit) nodes w
  exact ⟨last, trail_reachable trail, ended, journal⟩

end Fanout
