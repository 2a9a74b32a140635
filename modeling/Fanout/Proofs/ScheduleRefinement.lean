import Fanout.Proofs.ScheduleOrder

/-! The turns of a schedule bring about one interleaving: the results and the journal of
`runAll` are those of a floor on which every run has ended and which a broadcast with
that limit may come to. Without a limit it is one with a permit for every run. So what
holds of all interleavings holds of what the service does. -/
namespace Fanout

variable {s : Service} {view : View} {job : JobDescriptor} {limit : Option Nat} {runs : Nat}
  {w : Journal} {roster next : Roster} {floor : Floor} {holder : Holder} {place : Nat}

/-! ### The schedule step by step -/

theorem drive_grant (granted : roster.grant? limit = some next) :
    s.drive view job limit runs roster w = s.drive view job limit runs next w := by
  rw [Service.drive]
  split
  · rename_i found
    rw [granted] at found
    cases found
    rfl
  · rename_i none
    rw [granted] at none
    cases none

theorem drive_done (ungranted : roster.grant? limit = none)
    (done : roster.next? (s.executor.resume runs) (s.executor.allowance limit) = none) :
    s.drive view job limit runs roster w = (roster.results, w) := by
  rw [Service.drive]
  split
  · rename_i found
    rw [ungranted] at found
    cases found
  · split
    · rfl
    · rename_i found
      rw [done] at found
      cases found

theorem drive_carry (ungranted : roster.grant? limit = none)
    (found : roster.next? (s.executor.resume runs) (s.executor.allowance limit) =
      some ((holder, place), next)) :
    s.drive view job limit runs roster w =
      s.drive view job limit runs (s.attend view job holder place next w).1
        (s.attend view job holder place next w).2 := by
  rw [Service.drive]
  split
  · rename_i found
    rw [ungranted] at found
    cases found
  · split
    · rename_i none
      rw [found] at none
      cases none
    · rename_i other
      rw [found] at other
      cases other
      rfl

/-- When nothing is granted and nobody can go on, every run has ended. -/
theorem roster_done (ungranted : roster.grant? limit = none)
    (done : roster.next? (s.executor.resume runs) (s.executor.allowance limit) = none) :
    roster.waiting = [] ∧ roster.ready = [] ∧ roster.rested = [] := by
  unfold Roster.next? at done
  split at done
  · cases done
  · rename_i ready
    split at done
    · cases done
    · rename_i resumed
      have rested : roster.rested = [] :=
        List.Perm.nil_eq (resumed ▸ s.executor.resume_perm runs roster.rested) |>.symm
      refine ⟨?_, ready, rested⟩
      refine (Roster.grant_eq_none_iff.mp ungranted).resolve_right fun held => ?_
      simp [Roster.held, ready, rested] at held

/-! ### The floors of a schedule -/

/-- A floor that a broadcast may pass: in order if the executor keeps the order, and with
at most one call open if no dispatch pauses. -/
structure Service.Passes (s : Service) (limit : Option Nat) (runs : Nat) (floor : Floor) :
    Prop where
  inOrder : s.executor.KeepsOrder limit runs → floor.InOrder
  alone : s.dispatcher.pause = 0 → floor.openCalls ≤ 1

/-- No run on the roster waits for its dispatch. -/
def Roster.Unpaused (roster : Roster) : Prop :=
  ∀ entry ∈ roster.seats, entry.1.2.openCalls = 0

theorem unpaused_openCalls (follows : Follows limit roster floor) (unpaused : roster.Unpaused) :
    floor.openCalls = 0 := by
  rw [openCalls_eq_total]
  apply total_eq_zero
  intro stage member
  obtain ⟨lane, inside, rfl⟩ := List.mem_map.mp member
  obtain ⟨index, found⟩ := List.mem_iff_getElem?.mp inside
  exact unpaused (lane.seat, index)
    (follows.seats.mem_iff.mpr (mem_lane_seats.mpr ⟨lane, found, rfl⟩))

theorem grant_unpaused (granted : roster.grant? limit = some next) (unpaused : roster.Unpaused) :
    next.Unpaused := by
  obtain ⟨node, place, others, -, seats, after, -, -⟩ := grant_seats granted
  intro entry member
  rcases List.mem_cons.mp (after.subset member) with rfl | other
  · rfl
  · exact unpaused entry (seats.mem_iff.mpr (List.mem_cons_of_mem _ other))

/-- With a dispatcher that does not pause no run ever waits for its dispatch. -/
theorem attend_unpaused (view : View) (job : JobDescriptor) (w : Journal)
    (instant : s.dispatcher.pause = 0)
    (seats : roster.seats.Perm ((holder.seat, place) :: next.seats))
    (unpaused : roster.Unpaused) : (s.attend view job holder place next w).1.Unpaused := by
  have others (entry : Seat × Nat) (member : entry ∈ next.seats) : entry.1.2.openCalls = 0 :=
    unpaused entry (seats.mem_iff.mpr (List.mem_cons_of_mem _ member))
  have here := unpaused _ (seats.mem_iff.mpr List.mem_cons_self)
  cases holder with
  | paused left run => simp [Holder.seat, Stage.openCalls] at here
  | granted node =>
    simp only [Service.attend]
    split
    · intro entry member
      rcases List.mem_cons.mp ((settle_seats _ _ _).subset member) with rfl | other
      · rfl
      · exact others entry other
    · intro entry member
      rcases List.mem_cons.mp ((settle_seats _ _ _).subset member) with rfl | other
      · simp only [Service.advance]
        split
        · rfl
        · rw [instant]
          rfl
      · exact others entry other

/-- The roster stands for the floor: it follows it, it is orderly if the executor keeps the
order, and no run on it waits for its dispatch if no dispatch pauses. -/
structure Service.Stands (s : Service) (limit : Option Nat) (roster : Roster) (floor : Floor) :
    Prop where
  follows : Follows limit roster floor
  orderly : s.executor.KeepsOrder limit floor.lanes.length →
    roster.Orderly (s.executor.Roomy limit floor.lanes.length)
  unpaused : s.dispatcher.pause = 0 → roster.Unpaused

/-- Every floor that a roster stands for may be passed. -/
theorem stands_passes (stands : s.Stands limit roster floor) :
    s.Passes limit floor.lanes.length floor where
  inOrder keeps := orderly_inOrder stands.follows (stands.orderly keeps)
  alone instant := by
    rw [unpaused_openCalls stands.follows (stands.unpaused instant)]
    exact Nat.zero_le 1

/-- The floors between two steps of a run may be passed with the second. -/
theorem between_passes {passed : Floor} (stands : s.Stands limit roster floor)
    (begun : passed.lanes.map (·.stage.hasBegun) = floor.lanes.map (·.stage.hasBegun))
    (opened : passed.openCalls ≤ floor.openCalls + 1) :
    s.Passes limit floor.lanes.length passed where
  inOrder keeps := by
    rw [inOrder_iff, begun, ← inOrder_iff]
    exact orderly_inOrder stands.follows (stands.orderly keeps)
  alone instant := by
    rw [unpaused_openCalls stands.follows (stands.unpaused instant)] at opened
    exact opened

theorem grant_stands (s : Service) (view : View) (job : JobDescriptor)
    (stands : s.Stands limit roster floor) (granted : roster.grant? limit = some next) :
    ∃ target, FloorStep s view job floor target ∧ s.Stands limit next target ∧
      target.journal = floor.journal ∧ target.lanes.length = floor.lanes.length := by
  obtain ⟨follows, orderly, unpaused⟩ := stands
  obtain ⟨target, taken, follows, journal, size⟩ := grant_follows s view job follows granted
  refine ⟨target, taken, ⟨follows, ?_, ?_⟩, journal, size⟩
  · intro keeps
    rw [size] at keeps ⊢
    exact grant_orderly granted (orderly keeps)
  · intro instant
    exact grant_unpaused granted (unpaused instant)

theorem carry_stands (s : Service) (view : View) (job : JobDescriptor)
    (stands : s.Stands limit roster floor)
    (found : roster.next? (s.executor.resume floor.lanes.length) (s.executor.allowance limit) =
      some ((holder, place), next)) :
    let after := s.attend view job holder place next floor.journal
    ∃ target, Carried s view job floor target ∧ s.Stands limit after.1 target ∧
      target.journal = after.2 ∧ target.lanes.length = floor.lanes.length := by
  obtain ⟨follows, orderly, unpaused⟩ := stands
  have perm := s.executor.resume_perm floor.lanes.length roster.rested
  obtain ⟨target, carried, followsNext, journal, size⟩ :=
    carry_follows s view job perm follows found
  obtain ⟨seats, -, -⟩ := next_seats perm found
  have idle := idle_length_le follows
  refine ⟨target, carried, ⟨followsNext, ?_, ?_⟩, journal, size⟩
  · intro keeps
    rw [size] at keeps ⊢
    exact attend_orderly s view job floor.journal found perm
      (keeps_order_resumes keeps follows (orderly keeps))
      (fun roomy size same => Nat.le_trans idle (roomy size same)) (orderly keeps)
  · intro instant
    exact attend_unpaused view job floor.journal instant seats (unpaused instant)

/-! ### The whole schedule -/

variable {Kind : Floor → Prop}

/-- From a floor that a roster stands for, the schedule takes a course of steps to a floor
on which every run has ended, with its results and its journal: after each of its moves
the roster stands for a floor again. It only passes floors of some kind if carrying a run
on does. -/
theorem drive_trail (roster : Roster) (w : Journal) (floor : Floor)
    (carries : ∀ floor target roster, target.lanes.length = runs →
      Carried s view job floor target → s.Stands limit roster target →
      Trail s view job Kind floor target)
    (stands : s.Stands limit roster floor) (journal : floor.journal = w)
    (size : floor.lanes.length = runs) :
    ∃ last, Trail s view job Kind floor last ∧
      last.EndedWith (s.drive view job limit runs roster w).1 ∧
      last.journal = (s.drive view job limit runs roster w).2 := by
  induction roster, w using Service.drive.induct s view job limit runs generalizing floor with
  | case1 roster w next granted ih =>
    obtain ⟨target, taken, standsNext, journalNext, sizeNext⟩ :=
      grant_stands s view job stands granted
    obtain ⟨last, trail, ended, final⟩ :=
      ih target standsNext (journalNext.trans journal) (sizeNext.trans size)
    rw [drive_grant granted]
    exact ⟨last, (carries _ _ _ (sizeNext.trans size) (.moves taken) standsNext).trans trail,
      ended, final⟩
  | case2 roster w ungranted done =>
    rw [drive_done ungranted done]
    refine ⟨floor, .refl, ?_, journal⟩
    obtain ⟨waiting, ready, rested⟩ := roster_done ungranted done
    have seats := stands.follows.seats
    simp only [Roster.seats, waiting, ready, rested, holderSeats, List.map_nil,
      List.nil_append] at seats
    have same := seats_eq_of_perm seats (List.pairwise_map.mpr stands.follows.sorted)
    rw [Floor.EndedWith, ← lane_seats_stages, ← same, endedSeats, List.map_map, Roster.results,
      List.map_map]
    rfl
  | case3 roster w ungranted holder place next found after ih =>
    subst journal size
    obtain ⟨target, carried, standsNext, journalNext, sizeNext⟩ :=
      carry_stands s view job stands found
    obtain ⟨last, trail, ended, final⟩ := ih target standsNext journalNext sizeNext
    rw [drive_carry ungranted found]
    exact ⟨last, (carries _ _ _ sizeNext carried standsNext).trans trail, ended, final⟩

/-- At its beginning the roster of a broadcast stands for the floor on which all runs wait. -/
theorem entry_stands (s : Service) (limit : Option Nat) (nodes : List Node) (w : Journal) :
    s.Stands limit (.entry nodes (s.executor.allowance limit))
      (.entry (limit.getD nodes.length) nodes w) := by
  have seats : (Roster.entry nodes (s.executor.allowance limit)).seats =
      laneSeats (Floor.entry (limit.getD nodes.length) nodes w).lanes := by
    simp [Roster.seats, Roster.entry, holderSeats, endedSeats, laneSeats, Floor.entry,
      List.zipIdx_map, Lane.seat, Function.comp_def]
  have size : (Floor.entry (limit.getD nodes.length) nodes w).lanes.length = nodes.length := by
    simp [Floor.entry]
  refine ⟨⟨.of_eq seats, ?_, .nil⟩, ?_, ?_⟩
  · simp [Floor.entry, Roster.held, Roster.entry]
  · intro _
    rw [size]
    exact entry_orderly nodes fun roomy => roomy
  · intro _ entry member
    rw [seats] at member
    obtain ⟨lane, found, same⟩ := mem_lane_seats.mp member
    obtain ⟨node, -, rfl⟩ := List.mem_map.mp (List.mem_of_getElem? found)
    rw [← same]
    rfl

/-- The whole schedule is a course of steps over floors of some kind if carrying a run on
is. -/
theorem run_all_course (s : Service) (view : View) (job : JobDescriptor) (limit : Option Nat)
    (nodes : List Node) (w : Journal)
    (carries : ∀ floor target roster, target.lanes.length = nodes.length →
      Carried s view job floor target → s.Stands limit roster target →
      Trail s view job Kind floor target) :
    ∃ last, Trail s view job Kind (.entry (limit.getD nodes.length) nodes w) last ∧
      last.EndedWith (s.runAll view job limit nodes w).1 ∧
      last.journal = (s.runAll view job limit nodes w).2 :=
  drive_trail _ w _ carries (entry_stands s limit nodes w) rfl (by simp [Floor.entry])

/-- **A schedule is an interleaving.** What `runAll` does is a course of steps of a
broadcast whose limit, if it has none, is the number of its runs. -/
theorem run_all_trail (s : Service) (view : View) (job : JobDescriptor) (limit : Option Nat)
    (nodes : List Node) (w : Journal) :
    ∃ last, Trail s view job (s.Passes limit nodes.length)
        (.entry (limit.getD nodes.length) nodes w) last ∧
      last.EndedWith (s.runAll view job limit nodes w).1 ∧
      last.journal = (s.runAll view job limit nodes w).2 := by
  refine run_all_course s view job limit nodes w fun floor target roster size carried stands => ?_
  rw [← size]
  exact carried_trail carried (stands_passes stands) fun passed _ => between_passes stands

end Fanout
