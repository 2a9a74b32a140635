import Fanout.Proofs.Seats

/-! The steps that a schedule takes are steps of the interleaving. Granting a permit is
one; carrying a run on is none if it only takes a break, one if it begins and pauses or
if it ends, and two if it begins and ends at once. -/
namespace Fanout

variable {s : Service} {view : View} {job : JobDescriptor} {limit : Option Nat} {w later : Journal}
  {roster next : Roster} {floor : Floor} {holder : Holder} {place : Nat} {progress : Progress}
  {lane : Lane} {free : Nat}

/-- From one floor to another by as many steps as carrying a run on may take. The floor
between two steps has the same runs begun as the second and at most one more call open. -/
inductive Carried (s : Service) (view : View) (job : JobDescriptor) (floor : Floor) :
    Floor → Prop where
  | rests : Carried s view job floor floor
  | moves {next : Floor} (taken : FloorStep s view job floor next) : Carried s view job floor next
  | passes {between next : Floor} (begins : FloorStep s view job floor between)
      (ends : FloorStep s view job between next)
      (begun : between.lanes.map (·.stage.hasBegun) = next.lanes.map (·.stage.hasBegun))
      (opened : between.openCalls ≤ next.openCalls + 1) : Carried s view job floor next

/-- The permits that a run holds after it was carried on. -/
def Progress.held : Progress → Nat
  | .resting _ => 1
  | .ended _ => 0

/-- A course of steps with kinds of floors that the floors between two steps share with
the second. -/
theorem carried_trail {Kind : Floor → Prop} {target : Floor}
    (carried : Carried s view job floor target) (kind : Kind target)
    (between : ∀ passed : Floor, FloorStep s view job passed target →
      passed.lanes.map (·.stage.hasBegun) = target.lanes.map (·.stage.hasBegun) →
        passed.openCalls ≤ target.openCalls + 1 → Kind passed) :
    Trail s view job Kind floor target := by
  cases carried with
  | rests => exact .refl
  | moves taken => exact .single ⟨taken, kind⟩
  | passes begins ends begun opened =>
    exact (Relation.ReflTransGen.single ⟨begins, between _ ends begun opened⟩).tail ⟨ends, kind⟩

theorem seat_eq_granted {node : Node} (seat : lane.seat = (some node, .granted)) :
    lane.stage = .granted ∧ lane.node = node := by
  obtain ⟨none, stage⟩ := Prod.mk.inj seat
  rw [stage] at none
  exact ⟨stage, Option.some.inj none⟩

theorem seat_of_begun (begun : lane.stage.hasBegun = true) : lane.seat = (none, lane.stage) := by
  simp [Lane.seat, begun]

/-- A run whose dispatch pauses goes on to its next break, or ends. -/
theorem await_carried (s : Service) (view : View) (job : JobDescriptor) (w : Journal)
    (free : Nat) {run : Pending} (pauses : Nat)
    (dispatched : lane.stage = .begun (.dispatched run)) :
    ∃ moved free', moved.seat = (s.await pauses run w).1.seat ∧
      free' + (s.await pauses run w).1.held = free + 1 ∧
      ((s.await pauses run w).2 = w ∧ moved = lane ∧ free' = free ∨
        LaneStep s view job free lane w free' moved (s.await pauses run w).2) ∧
      moved.stage.hasBegun = true := by
  cases pauses with
  | zero =>
    cases finishes : s.finishRun run w with
    | mk result later =>
      simp only [Service.await, finishes]
      exact ⟨lane.reach (.ended result) w later, free + 1, seat_of_begun rfl, rfl,
        .inr (.finish dispatched finishes), rfl⟩
  | succ left =>
    have begun : lane.stage.hasBegun = true := by rw [dispatched]; rfl
    exact ⟨lane, free, (seat_of_begun begun).trans (by rw [dispatched]; rfl), rfl,
      .inl ⟨rfl, rfl, rfl⟩, begun⟩

/-- Carrying a run on is a course of steps of that run, and the permits are balanced. -/
theorem advance_carried (s : Service) (view : View) (job : JobDescriptor) (w : Journal)
    (free : Nat) (before after : List Lane) (seat : lane.seat = holder.seat) :
    ∃ moved free', moved.seat = (s.advance view job holder w).1.seat ∧
      free' + (s.advance view job holder w).1.held = free + 1 ∧
      Carried s view job ⟨free, before ++ lane :: after, w⟩
        ⟨free', before ++ moved :: after, (s.advance view job holder w).2⟩ := by
  cases holder with
  | paused left run =>
    have dispatched : lane.stage = .begun (.dispatched run) := (Prod.mk.inj seat).2
    obtain ⟨moved, free', taken, permits, ⟨same, rfl, rfl⟩ | step, -⟩ :=
      await_carried s view job w free left dispatched
    · refine ⟨moved, free', taken, permits, ?_⟩
      simp only [Service.advance, same]
      exact .rests
    · exact ⟨moved, free', taken, permits, .moves (.lane step)⟩
  | granted node =>
    obtain ⟨granted, rfl⟩ := seat_eq_granted seat
    cases begins : s.beginRun view job lane.node w with
    | mk begun middle =>
      have beginStep : LaneStep s view job free lane w free
          (lane.reach (.begun begun) w middle) middle := .start granted begins
      simp only [Service.advance, begins]
      cases begun with
      | settled result =>
        have settleStep : LaneStep s view job free (lane.reach (.begun (.settled result)) w middle)
            middle (free + 1) _ middle := .settle rfl
        refine ⟨_, free + 1, seat_of_begun rfl, rfl,
          .passes (.lane beginStep) (.lane settleStep) (by simp [Lane.reach]) ?_⟩
        simp only [openCalls_eq_total, total_lane, Lane.reach, Stage.openCalls]
        omega
      | dispatched run =>
        have begunLane : (lane.reach (.begun (.dispatched run)) w middle).stage =
            .begun (.dispatched run) := rfl
        obtain ⟨moved, free', taken, permits, ⟨same, rfl, rfl⟩ | step, begun⟩ :=
          await_carried s view job middle free s.dispatcher.pause begunLane
        · exact ⟨_, free', taken, permits, same.symm ▸ .moves (.lane beginStep)⟩
        · refine ⟨moved, free', taken, permits, .passes (.lane beginStep) (.lane step)
            (by simp [Lane.reach, begun]) ?_⟩
          simp only [openCalls_eq_total, total_lane, Lane.reach, Stage.openCalls]
          omega

theorem permit_left {limit : Option Nat} {held runs : Nat}
    (available : permitFree limit held = true) (waiting : held < runs) :
    held < max (limit.getD runs) 1 := by
  cases limit with
  | none => exact Nat.lt_of_lt_of_le waiting (Nat.le_max_left ..)
  | some n => simpa [permitFree] using available

theorem grant_follows (s : Service) (view : View) (job : JobDescriptor)
    (follows : Follows limit roster floor) (granted : roster.grant? limit = some next) :
    ∃ target, FloorStep s view job floor target ∧ Follows limit next target ∧
      target.journal = floor.journal ∧ target.lanes.length = floor.lanes.length := by
  obtain ⟨free, lanes, w⟩ := floor
  obtain ⟨node, place, others, available, seats, after, held, ended⟩ := grant_seats granted
  obtain ⟨perm, permits, sorted⟩ := follows
  have waiting : roster.held < lanes.length := by
    have size := (seats.symm.trans perm).length_eq
    have parts := seats.length_eq
    obtain ⟨_, _, others, waits, -⟩ := Roster.grant_cases granted
    simp only [Roster.seats, holderSeats, endedSeats, laneSeats, waits, Roster.held,
      List.length_append, List.length_map, List.length_cons, List.length_zipIdx] at size parts ⊢
    omega
  obtain ⟨before, lane, rest, rfl, seat, replace⟩ := lane_of_seat (seats.symm.trans perm)
  obtain ⟨-, waits⟩ := Prod.mk.inj seat
  have named : lane.node = node := by simpa [Lane.seat, waits, Stage.hasBegun] using seat
  have left := permit_left available waiting
  cases free with
  | zero => simp only at permits; omega
  | succ free =>
    refine ⟨_, .lane (.grant waits), ⟨?_, ?_, ended ▸ sorted⟩, rfl, by simp⟩
    · have moved := replace (lane.reach .granted w w)
      have seat : (lane.reach .granted w w).seat = (some node, .granted) := by
        simp [Lane.seat, Lane.reach, Stage.hasBegun, named]
      rw [seat] at moved
      exact after.trans moved
    · simp only [List.length_append, List.length_cons] at permits ⊢
      omega

/-- Whoever rests holds its permit on, and whoever has ended holds none. -/
theorem settle_held (roster : Roster) (place : Nat) (progress : Progress) :
    (roster.settle place progress).held = roster.held + progress.held := by
  cases progress with
  | resting holder =>
    simp only [Roster.settle, Roster.held, Progress.held, List.length_append,
      List.length_singleton, Nat.add_assoc]
  | ended result => rfl

theorem settle_sorted (place : Nat) (progress : Progress)
    (sorted : roster.ended.Pairwise fun entry later => entry.2 ≤ later.2) :
    (roster.settle place progress).ended.Pairwise fun entry later => entry.2 ≤ later.2 := by
  cases progress with
  | resting holder => exact sorted
  | ended result => exact placeResult_sorted result place sorted

/-- A run that the schedule takes up and carries on takes its steps on the floor. -/
theorem carry_follows (s : Service) (view : View) (job : JobDescriptor)
    {resume : List (Holder × Nat) → List (Holder × Nat)} {allowance : Option Nat}
    (perm : (resume roster.rested).Perm roster.rested)
    (follows : Follows limit roster floor)
    (found : roster.next? resume allowance = some ((holder, place), next)) :
    ∃ target, Carried s view job floor target ∧
      Follows limit (s.attend view job holder place next floor.journal).1 target ∧
      target.journal = (s.attend view job holder place next floor.journal).2 ∧
      target.lanes.length = floor.lanes.length := by
  obtain ⟨free, lanes, w⟩ := floor
  obtain ⟨seats, held, ended⟩ := next_seats perm found
  obtain ⟨all, permits, sorted⟩ := follows
  simp only [Service.attend]
  split
  · refine ⟨_, .rests, ⟨?_, ?_, ?_⟩, rfl, rfl⟩
    · exact (settle_seats next place (.resting holder)).trans (seats.symm.trans all)
    · rw [settle_held, ← permits, held]
      rfl
    · exact settle_sorted place _ (ended ▸ sorted)
  · obtain ⟨before, lane, after, rfl, seat, replace⟩ := lane_of_seat (seats.symm.trans all)
    obtain ⟨moved, free', seat, balance, carried⟩ :=
      advance_carried s view job w free before after seat
    have charged : (next.charge holder).seats = next.seats := by cases holder <;> rfl
    refine ⟨_, carried, ⟨?_, ?_, ?_⟩, rfl, by simp⟩
    · rw [← charged] at replace
      exact (settle_seats _ place _).trans (seat ▸ replace moved)
    · have kept : (next.charge holder).held = next.held := by cases holder <;> rfl
      rw [settle_held, kept]
      simp only [List.length_append, List.length_cons] at permits ⊢
      omega
    · have kept : (next.charge holder).ended = next.ended := by cases holder <;> rfl
      exact settle_sorted place _ (kept ▸ ended ▸ sorted)

end Fanout
