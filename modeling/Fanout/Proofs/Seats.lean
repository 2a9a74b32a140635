import Fanout.Proofs.RunOrder

/-! The roster of a schedule beside the floor of an interleaving. A run has its seat on
both: how far it has come, and its node as long as it has not begun. A roster follows a
floor when the same runs have the same seats and as many permits are free on the floor
as the roster leaves. Whatever the schedule does next is then a step of the run that it
is about, or two steps when a run begins and ends at once. -/
namespace Fanout

/-- How far a run has come, and its node as long as it has not begun. -/
abbrev Seat := Option Node × Stage

def Lane.seat (lane : Lane) : Seat :=
  (if lane.stage.hasBegun then none else some lane.node, lane.stage)

def Holder.seat : Holder → Seat
  | .granted node => (some node, .granted)
  | .paused _ run => (none, .begun (.dispatched run))

def Progress.seat : Progress → Seat
  | .resting holder => holder.seat
  | .ended result => (none, .ended result)

/-- The seats of runs in target order, each with its place. -/
def laneSeats (lanes : List Lane) : List (Seat × Nat) :=
  lanes.zipIdx.map fun entry => (entry.1.seat, entry.2)

/-- The seats of runs that hold a permit. -/
def holderSeats (holders : List (Holder × Nat)) : List (Seat × Nat) :=
  holders.map fun entry => (entry.1.seat, entry.2)

/-- The seats of runs that have ended. -/
def endedSeats (ended : List (RunResult × Nat)) : List (Seat × Nat) :=
  ended.map fun entry => ((none, .ended entry.1), entry.2)

/-- The seats of all runs on a roster. -/
def Roster.seats (roster : Roster) : List (Seat × Nat) :=
  roster.waiting.map (fun entry => ((some entry.1, .waiting), entry.2)) ++
    holderSeats roster.ready ++ holderSeats roster.rested ++ endedSeats roster.ended

/-- The roster shows where the runs on the floor stand. Without a limit there is a
permit for each of them. -/
structure Follows (limit : Option Nat) (roster : Roster) (floor : Floor) : Prop where
  seats : roster.seats.Perm (laneSeats floor.lanes)
  permits : floor.free + roster.held = max (limit.getD floor.lanes.length) 1
  sorted : roster.ended.Pairwise fun entry later => entry.2 ≤ later.2

variable {s : Service} {view : View} {job : JobDescriptor} {limit : Option Nat} {w later : Journal}
  {roster next : Roster} {floor : Floor} {holder : Holder} {place : Nat} {progress : Progress}
  {free : Nat} {lanes : List Lane}

/-! ### Seats -/

theorem lane_seats_split (before after : List Lane) (lane : Lane) :
    ((lane.seat, before.length) :: (laneSeats before ++
        (after.zipIdx (before.length + 1)).map fun entry => (entry.1.seat, entry.2))).Perm
      (laneSeats (before ++ lane :: after)) := by
  simp only [laneSeats, List.zipIdx_append, Nat.zero_add, List.map_append, List.zipIdx_cons,
    List.map_cons]
  exact List.perm_middle.symm

theorem mem_lane_seats {entry : Seat × Nat} :
    entry ∈ laneSeats lanes ↔ ∃ lane, lanes[entry.2]? = some lane ∧ lane.seat = entry.1 := by
  simp only [laneSeats, List.mem_map, Prod.exists, List.mem_zipIdx_iff_getElem?]
  constructor
  · rintro ⟨lane, index, found, rfl⟩
    exact ⟨lane, found, rfl⟩
  · rintro ⟨lane, found, same⟩
    exact ⟨lane, entry.2, found, by rw [same]⟩

theorem lane_seats_stages (lanes : List Lane) :
    (laneSeats lanes).map (·.1.2) = lanes.map Lane.stage := by
  have stages := congrArg (List.map Lane.stage) (List.zipIdx_map_fst 0 lanes)
  rw [List.map_map] at stages
  rw [laneSeats, List.map_map]
  exact stages

/-- A seat is that of one run, and whatever becomes of that run, the others keep
theirs. -/
theorem lane_of_seat {seat : Seat} {others : List (Seat × Nat)}
    (perm : ((seat, place) :: others).Perm (laneSeats lanes)) :
    ∃ before lane after, lanes = before ++ lane :: after ∧ lane.seat = seat ∧
      ∀ moved : Lane, ((moved.seat, place) :: others).Perm
        (laneSeats (before ++ moved :: after)) := by
  obtain ⟨lane, found, rfl⟩ := mem_lane_seats.mp (perm.subset List.mem_cons_self)
  obtain ⟨inside, here⟩ := List.getElem?_eq_some_iff.mp found
  have length : (lanes.take place).length = place := List.length_take_of_le (Nat.le_of_lt inside)
  have split : lanes = lanes.take place ++ lane :: lanes.drop (place + 1) := by
    rw [← here, ← List.drop_eq_getElem_cons inside, List.take_append_drop]
  refine ⟨_, _, _, split, rfl, ?_⟩
  intro moved
  have was := lane_seats_split (lanes.take place) (lanes.drop (place + 1)) lane
  have becomes := lane_seats_split (lanes.take place) (lanes.drop (place + 1)) moved
  rw [length] at was becomes
  rw [← split] at was
  exact ((perm.trans was.symm).cons_inv.cons _).trans becomes

/-- Seats in target order that show the same runs are the same list. -/
theorem seats_eq_of_perm {entries : List (Seat × Nat)} (perm : entries.Perm (laneSeats lanes))
    (sorted : entries.Pairwise fun entry later => entry.2 ≤ later.2) :
    entries = laneSeats lanes := by
  refine List.Perm.eq_of_pairwise ?_ sorted ?_ perm
  · intro left right inLeft inRight below above
    have level : left.2 = right.2 := Nat.le_antisymm below above
    obtain ⟨lane, found, seat⟩ := mem_lane_seats.mp (perm.subset inLeft)
    obtain ⟨other, otherFound, otherSeat⟩ := mem_lane_seats.mp inRight
    rw [level, otherFound] at found
    cases found
    exact Prod.ext (seat.symm.trans otherSeat) level
  · refine List.Pairwise.imp Nat.le_of_lt (List.pairwise_map.mp ?_)
    rw [laneSeats, List.map_map]
    exact (List.zipIdx_map_snd 0 lanes).symm ▸ List.pairwise_lt_range'

theorem placeResult_perm (result : RunResult) (place : Nat) (ended : List (RunResult × Nat)) :
    (placeResult result place ended).Perm ((result, place) :: ended) := by
  induction ended with
  | nil => exact .refl _
  | cons first rest ih =>
    unfold placeResult
    split
    · exact .refl _
    · exact (ih.cons first).trans (.swap ..)

theorem placeResult_sorted {ended : List (RunResult × Nat)} (result : RunResult) (place : Nat)
    (sorted : ended.Pairwise fun entry later => entry.2 ≤ later.2) :
    (placeResult result place ended).Pairwise fun entry later => entry.2 ≤ later.2 := by
  induction ended with
  | nil => simp [placeResult]
  | cons first rest ih =>
    obtain ⟨least, sorted'⟩ := List.pairwise_cons.mp sorted
    unfold placeResult
    split
    · rename_i before
      refine List.pairwise_cons.mpr ⟨?_, sorted⟩
      intro entry member
      rcases List.mem_cons.mp member with rfl | member
      · exact Nat.le_of_lt before
      · exact Nat.le_trans (Nat.le_of_lt before) (least entry member)
    · rename_i before
      refine List.pairwise_cons.mpr ⟨?_, ih sorted'⟩
      intro entry member
      rcases List.mem_cons.mp ((placeResult_perm result place rest).subset member) with rfl | member
      · exact Nat.le_of_not_lt before
      · exact least entry member

/-! ### Moves of the roster -/

/-- A grant moves the first run that waits behind those that can go on. -/
theorem grant_seats (granted : roster.grant? limit = some next) :
    ∃ node place others, permitFree limit roster.held = true ∧
      roster.seats.Perm (((some node, .waiting), place) :: others) ∧
      next.seats.Perm (((some node, .granted), place) :: others) ∧
      next.held = roster.held + 1 ∧ next.ended = roster.ended := by
  obtain ⟨node, place, rest, waits, available, rfl⟩ := Roster.grant_cases granted
  refine ⟨node, place, rest.map (fun entry => ((some entry.1, .waiting), entry.2)) ++
    holderSeats roster.ready ++ holderSeats roster.rested ++ endedSeats roster.ended,
    available, ?_, ?_, ?_, rfl⟩
  · simp [Roster.seats, waits]
  · simp only [Roster.seats, holderSeats, List.map_append, List.map_cons, List.map_nil,
      List.append_assoc, List.cons_append, List.nil_append]
    exact (List.perm_middle.append_left _).trans List.perm_middle
  · simp only [Roster.held, List.length_append, List.length_singleton]
    omega

/-- The run that is carried on next is taken off the roster. -/
theorem next_seats {resume : List (Holder × Nat) → List (Holder × Nat)} {allowance : Option Nat}
    (perm : (resume roster.rested).Perm roster.rested)
    (found : roster.next? resume allowance = some ((holder, place), next)) :
    roster.seats.Perm ((holder.seat, place) :: next.seats) ∧ roster.held = next.held + 1 ∧
      next.ended = roster.ended := by
  unfold Roster.next? at found
  split at found
  · rename_i first rest ready
    cases found
    refine ⟨?_, by simp only [Roster.held, ready, List.length_cons]; omega, rfl⟩
    simp only [Roster.seats, ready, holderSeats, List.map_cons, List.append_assoc,
      List.cons_append]
    exact List.perm_middle
  · rename_i ready
    split at found
    · rename_i first rest resumed
      cases found
      rw [resumed] at perm
      refine ⟨?_, by simpa [Roster.held, ready] using perm.length_eq.symm, rfl⟩
      have seats := perm.map fun entry : Holder × Nat => (entry.1.seat, entry.2)
      simp only [Roster.seats, ready, holderSeats, List.map_nil, List.append_nil,
        List.append_assoc]
      exact ((seats.symm.append_right _).append_left _).trans (by
        simp only [List.map_cons, List.cons_append]
        exact List.perm_middle)
    · cases found

/-- A run that was carried on takes its seat again. -/
theorem settle_seats (roster : Roster) (place : Nat) (progress : Progress) :
    (roster.settle place progress).seats.Perm ((progress.seat, place) :: roster.seats) := by
  cases progress with
  | resting holder =>
    simp only [Roster.settle, Roster.seats, holderSeats, List.map_append, List.map_cons,
      List.map_nil, Progress.seat, ← List.append_assoc]
    rw [List.append_assoc, List.singleton_append]
    exact List.perm_middle
  | ended result =>
    have placed := (placeResult_perm result place roster.ended).map fun entry : RunResult × Nat =>
      (((none, .ended entry.1), entry.2) : Seat × Nat)
    simp only [Roster.settle, Roster.seats, endedSeats, Progress.seat]
    exact (placed.append_left _).trans List.perm_middle

end Fanout
