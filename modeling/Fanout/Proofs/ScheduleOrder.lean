import Fanout.Proofs.Carrying

/-! When a schedule begins the runs in target order. A run that takes its break before
it has begun may fall behind another one at the start of the next turn, and only then.
`Executor.KeepsOrder` says when no broadcast with so many runs comes to that; under it
the runs on the roster that have not begun stand in target order behind all that have,
whatever the schedule does. -/
namespace Fanout

/-- Of so many runs with a limit, at most one ever has to take a break before it has
begun. -/
def Executor.Roomy (executor : Executor) (limit : Option Nat) (runs : Nat) : Prop :=
  ∀ size, executor.allowance limit = some size → runs ≤ size + 1

/-- The executor lets so many runs with a limit begin in target order: no two of them
have to take a break before they have begun, or there is one permit only, or those that
took a break are resumed in order. -/
def Executor.KeepsOrder (executor : Executor) (limit : Option Nat) (runs : Nat) : Prop :=
  executor.Roomy limit runs ∨ (∃ n, limit = some n ∧ n ≤ 1) ∨ runs ≤ executor.inOrder

/-- The place of a run that holds a permit and has not begun. -/
def Holder.idle? : Holder × Nat → Option Nat
  | (.granted _, place) => some place
  | (.paused _ _, _) => none

/-- The places of some runs that hold a permit and have not begun. -/
def idlePlaces (holders : List (Holder × Nat)) : List Nat := holders.filterMap Holder.idle?

/-- The places of the runs that have not begun, in the order in which they are going to
begin. -/
def Roster.idle (roster : Roster) : List Nat :=
  idlePlaces roster.rested ++ (idlePlaces roster.ready ++ roster.waiting.map (·.2))

/-- The runs that have not begun stand in target order behind those that have. Some of
them have taken a break only if no run may begin any more in this turn, and in a roomy
broadcast at most one of them can be made to. -/
structure Roster.Orderly (roomy : Prop) (roster : Roster) : Prop where
  rising : roster.idle.Pairwise (· < ·)
  behind : ∀ entry ∈ roster.seats, entry.1.2.hasBegun = true →
    ∀ place ∈ roster.idle, entry.2 < place
  forced : idlePlaces roster.rested ≠ [] → roster.left = some 0
  room : roomy → ∀ left, roster.left = some left → roster.idle.length ≤ left + 1

variable {limit : Option Nat} {roster next : Roster} {floor : Floor} {holder : Holder}
  {place : Nat} {roomy : Prop} {resume : List (Holder × Nat) → List (Holder × Nat)}
  {allowance : Option Nat}

@[simp] theorem idlePlaces_nil : idlePlaces [] = [] := rfl

@[simp] theorem idlePlaces_append (xs ys : List (Holder × Nat)) :
    idlePlaces (xs ++ ys) = idlePlaces xs ++ idlePlaces ys := List.filterMap_append

theorem idlePlaces_cons (holder : Holder) (place : Nat) (rest : List (Holder × Nat)) :
    idlePlaces ((holder, place) :: rest) =
      (Holder.idle? (holder, place)).toList ++ idlePlaces rest := by
  cases holder <;> rfl

/-- Every run on a roster that has not begun is listed. -/
theorem mem_idle {entry : Seat × Nat} (seated : entry ∈ roster.seats)
    (idle : entry.1.2.hasBegun = false) : entry.2 ∈ roster.idle := by
  have held (holders : List (Holder × Nat)) (seated : entry ∈ holderSeats holders) :
      entry.2 ∈ idlePlaces holders := by
    obtain ⟨⟨holder, place⟩, member, rfl⟩ := List.mem_map.mp seated
    cases holder with
    | granted node => exact List.mem_filterMap.mpr ⟨_, member, rfl⟩
    | paused left run => simp [Holder.seat] at idle
  simp only [Roster.seats, List.mem_append] at seated
  simp only [Roster.idle, List.mem_append]
  rcases seated with ((waits | ready) | rested) | ended
  · obtain ⟨run, member, rfl⟩ := List.mem_map.mp waits
    exact .inr (.inr (List.mem_map_of_mem member))
  · exact .inr (.inl (held _ ready))
  · exact .inl (held _ rested)
  · obtain ⟨run, member, rfl⟩ := List.mem_map.mp ended
    simp at idle

theorem idle_length_le (follows : Follows limit roster floor) :
    roster.idle.length ≤ floor.lanes.length := by
  have size := follows.seats.length_eq
  have ready := List.length_filterMap_le Holder.idle? roster.ready
  have rested := List.length_filterMap_le Holder.idle? roster.rested
  simp only [Roster.seats, holderSeats, endedSeats, laneSeats, List.length_append,
    List.length_map, List.length_zipIdx] at size
  simp only [Roster.idle, idlePlaces, List.length_append, List.length_map]
  omega

/-- A floor is in order when the roster that follows it is. -/
theorem orderly_inOrder (follows : Follows limit roster floor) (orderly : roster.Orderly roomy) :
    floor.InOrder := by
  rw [Floor.InOrder, List.pairwise_iff_getElem]
  intro i j inside insideLater before begun
  cases idle : floor.lanes[i].stage.hasBegun with
  | true => rfl
  | false =>
    have seat (index : Nat) (inside : index < floor.lanes.length) :
        ((floor.lanes[index].seat, index) : Seat × Nat) ∈ roster.seats :=
      follows.seats.mem_iff.mpr
        (mem_lane_seats.mpr ⟨_, List.getElem?_eq_getElem inside, rfl⟩)
    have listed := mem_idle (seat i inside) idle
    have ahead := orderly.behind _ (seat j insideLater) begun _ listed
    exact absurd before (Nat.lt_asymm ahead)

/-- All runs wait in target order before any has begun. -/
theorem entry_orderly (nodes : List Node) {left : Option Nat}
    (room : roomy → ∀ size, left = some size → nodes.length ≤ size + 1) :
    (Roster.entry nodes left).Orderly roomy := by
  have idle : (Roster.entry nodes left).idle = List.range' 0 nodes.length := by
    simp [Roster.idle, Roster.entry, idlePlaces]
  refine ⟨?_, ?_, ?_, ?_⟩
  · rw [idle]
    exact List.pairwise_lt_range'
  · intro entry seated begun
    simp only [Roster.seats, Roster.entry, holderSeats, endedSeats, List.map_nil,
      List.append_nil, List.mem_map] at seated
    obtain ⟨run, -, rfl⟩ := seated
    simp at begun
  · intro rested
    exact absurd rfl rested
  · intro holds size same
    rw [idle, List.length_range']
    exact room holds size same

/-! ### Moves of the roster -/

theorem grant_orderly (granted : roster.grant? limit = some next)
    (orderly : roster.Orderly roomy) : next.Orderly roomy := by
  obtain ⟨node, place, others, -, seats, after, -, -⟩ := grant_seats granted
  obtain ⟨rising, behind, forced, room⟩ := orderly
  have same : next.idle = roster.idle ∧ next.rested = roster.rested ∧ next.left = roster.left := by
    obtain ⟨node, place, rest, waits, -, rfl⟩ := Roster.grant_cases granted
    simp [Roster.idle, waits, idlePlaces, Holder.idle?]
  obtain ⟨idle, rested, left⟩ := same
  refine ⟨idle ▸ rising, ?_, ?_, ?_⟩
  · intro entry seated begun
    rw [idle]
    refine behind entry (seats.mem_iff.mpr ?_) begun
    rcases List.mem_cons.mp (after.subset seated) with rfl | other
    · simp at begun
    · exact List.mem_cons_of_mem _ other
  · rw [rested, left]
    exact forced
  · rw [idle, left]
    exact room

/-- The run that is taken up next is the first of those that can go on; those that have
not begun keep their order as long as resuming them does. -/
theorem next_idle (found : roster.next? resume allowance = some ((holder, place), next))
    (resumes : idlePlaces (resume roster.rested) = idlePlaces roster.rested) :
    roster.idle = idlePlaces next.rested ++ ((Holder.idle? (holder, place)).toList ++
        (idlePlaces next.ready ++ next.waiting.map (·.2))) ∧
      (next.left = roster.left ∧ next.rested = roster.rested ∨
        next.left = allowance ∧ next.rested = []) := by
  unfold Roster.next? at found
  split at found
  · rename_i first rest ready
    cases found
    simp [Roster.idle, ready, idlePlaces_cons]
  · rename_i ready
    split at found
    · rename_i first rest resumed
      cases found
      rw [resumed, idlePlaces_cons] at resumes
      rw [Roster.idle, ready, ← resumes]
      simp
    · cases found

/-- Runs that took a break are resumed in order if they are few, or if at most one of
them has not begun. -/
theorem resume_idle (executor : Executor) (runs : Nat) {rested : List (Holder × Nat)}
    (few : runs ≤ executor.inOrder ∨ (idlePlaces rested).length ≤ 1) :
    idlePlaces (executor.resume runs rested) = idlePlaces rested := by
  unfold Executor.resume
  split
  · rfl
  · rename_i many
    have short := few.resolve_left many
    have reversed : idlePlaces rested.reverse = (idlePlaces rested).reverse :=
      List.filterMap_reverse
    rw [reversed]
    cases listed : idlePlaces rested with
    | nil => rfl
    | cons first rest =>
      rw [listed, List.length_cons] at short
      rw [List.eq_nil_of_length_eq_zero (by omega : rest.length = 0)]
      rfl

/-- An executor that keeps the order resumes the runs in order. -/
theorem keeps_order_resumes {executor : Executor}
    (keeps : executor.KeepsOrder limit floor.lanes.length) (follows : Follows limit roster floor)
    (orderly : roster.Orderly (executor.Roomy limit floor.lanes.length)) :
    idlePlaces (executor.resume floor.lanes.length roster.rested) = idlePlaces roster.rested := by
  refine resume_idle executor _ ?_
  rcases keeps with roomy | ⟨n, rfl, single⟩ | few
  · refine .inr ?_
    by_cases none : idlePlaces roster.rested = []
    · simp [none]
    · have room := orderly.room roomy 0 (orderly.forced none)
      simp only [Roster.idle, List.length_append] at room
      omega
  · have permits := follows.permits
    have listed := List.length_filterMap_le Holder.idle? roster.rested
    simp only [Option.getD_some, Roster.held] at permits
    simp only [idlePlaces]
    omega
  · exact .inl few

theorem advance_begun (s : Service) (view : View) (job : JobDescriptor) (holder : Holder)
    (w : Journal) : (s.advance view job holder w).1.seat.2.hasBegun = true := by
  have awaited (pauses : Nat) (run : Pending) (w : Journal) :
      (s.await pauses run w).1.seat.2.hasBegun = true := by
    cases pauses <;> simp [Service.await, Progress.seat, Holder.seat]
  cases holder with
  | granted node =>
    simp only [Service.advance]
    split
    · simp [Progress.seat]
    · exact awaited ..
  | paused left run => exact awaited ..

theorem settle_idle (roster : Roster) (place : Nat) {progress : Progress}
    (begun : progress.seat.2.hasBegun = true) :
    (roster.settle place progress).idle = roster.idle ∧
      idlePlaces (roster.settle place progress).rested = idlePlaces roster.rested := by
  cases progress with
  | ended result => exact ⟨rfl, rfl⟩
  | resting holder =>
    cases holder with
    | granted node => simp [Progress.seat, Holder.seat] at begun
    | paused left run => simp [Roster.settle, Roster.idle, idlePlaces_cons, Holder.idle?]

/-- A run that has to rest goes behind those that rest already, and stays in front of
all others that have not begun. -/
theorem rest_orderly {node : Node} (orderly : roster.Orderly roomy)
    (idle : roster.idle = idlePlaces next.rested ++ place ::
      (idlePlaces next.ready ++ next.waiting.map (·.2)))
    (seats : roster.seats.Perm (((some node, .granted), place) :: next.seats))
    (spent : next.left = some 0)
    (spare : roomy → ∀ size, next.left = some size → roster.idle.length ≤ size + 1) :
    (next.settle place (.resting (.granted node))).Orderly roomy := by
  have same : (next.settle place (.resting (.granted node))).idle = roster.idle := by
    rw [idle]
    simp [Roster.settle, Roster.idle, idlePlaces_cons, Holder.idle?]
  have seated : (next.settle place (.resting (.granted node))).seats.Perm roster.seats :=
    (settle_seats next place _).trans seats.symm
  refine ⟨same ▸ orderly.rising, ?_, ?_, ?_⟩
  · intro entry member begun
    rw [same]
    exact orderly.behind entry (seated.subset member) begun
  · intro _
    exact spent
  · rw [same]
    exact spare

theorem settle_charged (next : Roster) (holder : Holder) (place : Nat) {progress : Progress}
    (begun : progress.seat.2.hasBegun = true) :
    let after := (next.charge holder).settle place progress
    after.idle = next.idle ∧ idlePlaces after.rested = idlePlaces next.rested ∧
      after.left = (next.charge holder).left ∧
      after.seats.Perm ((progress.seat, place) :: next.seats) := by
  obtain ⟨idle, rested⟩ := settle_idle (next.charge holder) place begun
  have seats := settle_seats (next.charge holder) place progress
  have left : ((next.charge holder).settle place progress).left = (next.charge holder).left := by
    cases progress <;> rfl
  cases holder <;> exact ⟨idle, rested, left, seats⟩

/-- A run that has begun already leaves those that have not as they are. -/
theorem resume_orderly {left : Nat} {run : Pending} {progress : Progress}
    (orderly : roster.Orderly roomy) (idle : roster.idle = next.idle)
    (seats : roster.seats.Perm (((Holder.paused left run).seat, place) :: next.seats))
    (forced : idlePlaces next.rested ≠ [] → next.left = some 0)
    (spare : roomy → ∀ size, next.left = some size → roster.idle.length ≤ size + 1)
    (begun : progress.seat.2.hasBegun = true) :
    ((next.charge (.paused left run)).settle place progress).Orderly roomy := by
  obtain ⟨same, rested, kept, seated⟩ := settle_charged next (.paused left run) place begun
  rw [← idle] at same
  refine ⟨same ▸ orderly.rising, ?_, ?_, ?_⟩
  · intro entry member started
    rw [same]
    rcases List.mem_cons.mp (seated.subset member) with rfl | other
    · exact orderly.behind ((Holder.paused left run).seat, place)
        (seats.mem_iff.mpr List.mem_cons_self) rfl
    · exact orderly.behind entry (seats.mem_iff.mpr (List.mem_cons_of_mem _ other)) started
  · rw [rested, kept]
    exact forced
  · rw [same, kept]
    exact spare

/-- A run that begins leaves those that have not begun as the first of them, and takes one
from the allowance of the turn. -/
theorem begin_orderly {node : Node} {progress : Progress} (orderly : roster.Orderly roomy)
    (idle : roster.idle = idlePlaces next.rested ++ place ::
      (idlePlaces next.ready ++ next.waiting.map (·.2)))
    (seats : roster.seats.Perm (((some node, .granted), place) :: next.seats))
    (forced : idlePlaces next.rested ≠ [] → next.left = some 0)
    (spare : roomy → ∀ size, next.left = some size → roster.idle.length ≤ size + 1)
    (unspent : next.left ≠ some 0) (begun : progress.seat.2.hasBegun = true) :
    ((next.charge (.granted node)).settle place progress).Orderly roomy := by
  obtain ⟨same, rested, kept, seated⟩ := settle_charged next (.granted node) place begun
  have first : idlePlaces next.rested = [] := by
    apply Classical.byContradiction
    intro some
    exact unspent (forced some)
  have ahead : roster.idle = place :: next.idle := by
    simpa [first, Roster.idle] using idle
  obtain ⟨least, rising⟩ := List.pairwise_cons.mp (ahead ▸ orderly.rising)
  refine ⟨same ▸ rising, ?_, ?_, ?_⟩
  · intro entry member started
    rw [same]
    rcases List.mem_cons.mp (seated.subset member) with rfl | other
    · exact least
    · intro later listed
      exact orderly.behind entry (seats.mem_iff.mpr (List.mem_cons_of_mem _ other)) started later
        (ahead ▸ List.mem_cons_of_mem _ listed)
  · rw [rested, first]
    exact fun some => absurd rfl some
  · rw [same, kept]
    intro holds size counted
    obtain ⟨left, was, rfl⟩ := Option.map_eq_some_iff.mp counted
    have enough := spare holds left was
    have positive : left ≠ 0 := fun zero => unspent (zero ▸ was)
    rw [ahead, List.length_cons] at enough
    omega

theorem attend_orderly (s : Service) (view : View) (job : JobDescriptor) (w : Journal)
    (found : roster.next? resume allowance = some ((holder, place), next))
    (perm : (resume roster.rested).Perm roster.rested)
    (resumes : idlePlaces (resume roster.rested) = idlePlaces roster.rested)
    (room : roomy → ∀ size, allowance = some size → roster.idle.length ≤ size + 1)
    (orderly : roster.Orderly roomy) :
    (s.attend view job holder place next w).1.Orderly roomy := by
  obtain ⟨idle, left⟩ := next_idle found resumes
  obtain ⟨seats, -, -⟩ := next_seats perm found
  have forced : idlePlaces next.rested ≠ [] → next.left = some 0 := by
    rcases left with ⟨left, rested⟩ | ⟨-, rested⟩
    · rw [left, rested]
      exact orderly.forced
    · rw [rested]
      exact fun some => absurd rfl some
  have spare : roomy → ∀ size, next.left = some size → roster.idle.length ≤ size + 1 := by
    rcases left with ⟨left, -⟩ | ⟨left, -⟩
    · rw [left]
      exact orderly.room
    · rw [left]
      exact room
  have begun := advance_begun s view job holder w
  cases holder with
  | paused left run =>
    exact resume_orderly orderly idle seats forced spare begun
  | granted node =>
    simp only [Service.attend]
    split
    · rename_i rests
      exact rest_orderly orderly idle seats (by simpa [Roster.mustRest] using rests) spare
    · rename_i goes
      exact begin_orderly orderly idle seats forced spare
        (by simpa [Roster.mustRest] using goes) begun

end Fanout
