import Fanout.Proofs.ScheduleRefinement

/-! How many calls a schedule has open at the end of its first turn. No permit is idle
while a run waits, so if every dispatch pauses and no run is made to rest before it has
begun, there is one for every member among the nodes, or one for every permit. The
effects of a schedule are only ever added to, so its peak is at least that high. -/
namespace Fanout

/-- No run of a broadcast of so many is made to rest before it has begun. -/
def Executor.Unforced (executor : Executor) (limit : Option Nat) (runs : Nat) : Prop :=
  ∀ size, executor.allowance limit = some size → runs ≤ size

/-- So many runs, or as many of them as may hold a permit at a time. -/
def underLimit (limit : Option Nat) (runs : Nat) : Nat :=
  match limit with
  | none => runs
  | some n => min (max n 1) runs

variable {s : Service} {view : View} {job : JobDescriptor} {limit : Option Nat} {runs : Nat}
  {first w : Journal} {roster next : Roster} {holder : Holder} {place : Nat} {node : Node}

theorem under_limit_le (limit : Option Nat) (runs : Nat) : underLimit limit runs ≤ runs := by
  cases limit with
  | none => exact Nat.le_refl runs
  | some n => exact Nat.min_le_right ..

/-- When no permit is free, as many are held as there can be. -/
theorem under_limit_le_held {held : Nat} (none : permitFree limit held = false) (runs : Nat) :
    underLimit limit runs ≤ held := by
  cases limit with
  | none => cases none
  | some n =>
    simp only [permitFree, decide_eq_false_iff_not, underLimit] at none ⊢
    omega

theorem unforced_keeps_order {executor : Executor} (unforced : executor.Unforced limit runs) :
    executor.KeepsOrder limit runs :=
  .inl fun size same => Nat.le_trans (unforced size same) (Nat.le_succ size)

/-! ### Effects are only added -/

theorem await_extends (s : Service) (pauses : Nat) (run : Pending) (w : Journal) :
    w.effects <+: (s.await pauses run w).2.effects := by
  cases pauses with
  | zero =>
    cases finishes : s.finishRun run w with
    | mk result later =>
      simp only [Service.await, finishes]
      rw [Service.finish_journal finishes]
      exact List.prefix_append ..
  | succ left => exact List.prefix_rfl

theorem advance_extends (s : Service) (view : View) (job : JobDescriptor) (holder : Holder)
    (w : Journal) : w.effects <+: (s.advance view job holder w).2.effects := by
  cases holder with
  | paused left run => exact await_extends s left run w
  | granted node =>
    simp only [Service.advance]
    split
    · rename_i begins
      rw [(begin_run_adds begins).2.2]
      exact List.prefix_append ..
    · rename_i run later begins
      refine List.IsPrefix.trans ?_ (await_extends s s.dispatcher.pause run later)
      rw [(begin_run_adds begins).2.2]
      exact List.prefix_append ..

theorem drive_extends (s : Service) (view : View) (job : JobDescriptor) (limit : Option Nat)
    (runs : Nat) (roster : Roster) (w : Journal) :
    w.effects <+: (s.drive view job limit runs roster w).2.effects := by
  induction roster, w using Service.drive.induct s view job limit runs with
  | case1 roster w next granted ih =>
    rw [drive_grant granted]
    exact ih
  | case2 roster w ungranted done =>
    simp only [drive_done ungranted done, List.prefix_rfl]
  | case3 roster w ungranted holder place next found after ih =>
    rw [drive_carry ungranted found]
    refine List.IsPrefix.trans ?_ ih
    simp only [after, Service.attend]
    split
    · exact List.prefix_rfl
    · exact advance_extends s view job holder w

/-! ### The first turn -/

/-- The run has to make a call when it begins. -/
def Holder.isDue (view : View) : Holder → Bool
  | .granted node => view.has node.id
  | .paused _ _ => false

/-- The calls that are still to be made on a roster where nobody has begun but those
that rest. -/
def Roster.due (view : View) (roster : Roster) : Nat :=
  roster.waiting.countP (fun entry => view.has entry.1.id) +
    roster.ready.countP fun entry => entry.1.isDue view

/-- The first turn of a schedule that began with a journal: whoever is ready has not
begun, the turn has room for everybody, and as many calls are open as runs rest. -/
structure FirstTurn (first : Journal) (roster : Roster) (w : Journal) : Prop where
  fresh : ∀ entry ∈ roster.ready, ∃ node, entry.1 = .granted node
  room : ∀ size, roster.left = some size → roster.waiting.length + roster.ready.length ≤ size
  opened : ∃ more, w.effects = first.effects ++ more ∧
    Effect.openAfter 0 more = roster.rested.length

theorem entry_first_turn (nodes : List Node) (w : Journal) {left : Option Nat}
    (room : ∀ size, left = some size → nodes.length ≤ size) :
    FirstTurn w (.entry nodes left) w where
  fresh _ member := nomatch member
  room size same := by simpa [Roster.entry] using room size same
  opened := ⟨[], by simp, rfl⟩

/-- A grant makes a run ready that waited, and changes nothing else. -/
theorem grant_first_turn (view : View) (granted : roster.grant? limit = some next)
    (turn : FirstTurn first roster w) :
    FirstTurn first next w ∧ next.rested = roster.rested ∧ next.due view = roster.due view := by
  obtain ⟨fresh, room, opened⟩ := turn
  obtain ⟨node, place, rest, waiting, -, rfl⟩ := Roster.grant_cases granted
  rw [waiting, List.length_cons] at room
  refine ⟨⟨?_, ?_, opened⟩, rfl, ?_⟩
  · intro entry member
    rcases List.mem_append.mp member with member | member
    · exact fresh entry member
    · exact ⟨node, by rw [List.mem_singleton.mp member]⟩
  · intro size same
    have enough := room size same
    simp only [List.length_append, List.length_singleton]
    omega
  · simp only [Roster.due, waiting, List.countP_append, List.countP_cons, List.countP_nil,
      Holder.isDue]
    omega

/-- A run on a node that is no member ends without a call. -/
theorem advance_departed (departed : view.has node.id = false) :
    s.advance view job (.granted node) w = (.ended (.ok (s.departedRecord node w)),
      { w with idsMade := w.idsMade + 1, readings := w.readings + 2 }) := by
  simp only [Service.advance, Service.begin_departed _ _ _ _ _ departed,
    beginning_departed departed]

/-- A run on a member rests with an open call if its dispatch pauses. -/
theorem advance_member {left : Nat} (pauses : s.dispatcher.pause = left + 1)
    (member : view.has node.id = true) :
    s.advance view job (.granted node) w = (.resting (.paused left (s.memberRun view job node w)),
      { idsMade := w.idsMade + 1, readings := w.readings + 2,
        effects := w.effects ++ [.callBegun (s.memberRun view job node w).call] }) := by
  simp only [Service.advance, Service.begin_member _ _ _ _ _ member, beginning_member member,
    pauses]
  rfl

/-- The first turn lets the next run begin, and has room for all the others after it. -/
theorem first_turn_lets_begin {rest : List (Holder × Nat)}
    (ready : roster.ready = (.granted node, place) :: rest) (turn : FirstTurn first roster w) :
    ({ roster with ready := rest } : Roster).mustRest (.granted node) = false ∧
      ∀ size, roster.left.map (· - 1) = some size →
        roster.waiting.length + rest.length ≤ size := by
  have room (size : Nat) (left : roster.left = some size) :
      roster.waiting.length + rest.length + 1 ≤ size := by
    have enough := turn.room size left
    rw [ready, List.length_cons] at enough
    omega
  constructor
  · cases left : roster.left with
    | none => simp [Roster.mustRest]
    | some size =>
      have enough := room size left
      simp only [Roster.mustRest, beq_eq_false_iff_ne, ne_eq, Option.some.injEq]
      omega
  · intro size same
    obtain ⟨before, left, rfl⟩ := Option.map_eq_some_iff.mp same
    have enough := room before left
    omega

/-- A run that is carried on in the first turn begins. If it makes a call, it rests with
the call open. -/
theorem carry_first_turn (view : View) (job : JobDescriptor) {rest : List (Holder × Nat)}
    (pauses : 1 ≤ s.dispatcher.pause)
    (ready : roster.ready = (holder, place) :: rest) (turn : FirstTurn first roster w) :
    let after := s.attend view job holder place { roster with ready := rest } w
    FirstTurn first after.1 after.2 ∧
      after.1.rested.length + after.1.due view = roster.rested.length + roster.due view := by
  obtain ⟨node, same⟩ := turn.fresh (holder, place) (by simp [ready])
  cases same
  have fresh (entry : Holder × Nat) (member : entry ∈ rest) : ∃ node, entry.1 = .granted node :=
    turn.fresh entry (ready ▸ List.mem_cons_of_mem _ member)
  obtain ⟨begins, room⟩ := first_turn_lets_begin ready turn
  obtain ⟨more, extended, opened⟩ := turn.opened
  simp only [Service.attend, begins, Bool.false_eq_true, if_false]
  cases member : view.has node.id with
  | false =>
    rw [advance_departed member]
    refine ⟨⟨fresh, room, more, extended, opened⟩, ?_⟩
    simp [Roster.due, Roster.charge, Roster.settle, ready, Holder.isDue, member]
  | true =>
    obtain ⟨left, pauses⟩ := Nat.exists_eq_add_of_le' pauses
    rw [advance_member pauses member]
    refine ⟨⟨fresh, room, more ++ [.callBegun (s.memberRun view job node w).call], ?_, ?_⟩, ?_⟩
    · simp [extended]
    · simp [Effect.openAfter_append, opened, Effect.openAfter, Roster.settle, Roster.charge]
    · simp only [Roster.due, Roster.charge, Roster.settle, ready, Holder.isDue, member,
        List.length_append, List.length_singleton, List.countP_cons_of_pos]
      omega

/-- At the end of the first turn no call is due any more, or every permit is held. -/
theorem first_turn_over (ungranted : roster.grant? limit = none) (ready : roster.ready = []) :
    underLimit limit (roster.rested.length + roster.due view) ≤ roster.rested.length := by
  rcases Roster.grant_eq_none_iff.mp ungranted with waiting | held
  · have none : roster.due view = 0 := by simp [Roster.due, waiting, ready]
    rw [none]
    exact under_limit_le ..
  · rw [Roster.held, ready, List.length_nil, Nat.zero_add] at held
    exact under_limit_le_held held _

/-- From the first turn on, a schedule comes to have as many calls open as are open or
due, or as there can be permits. The turn is over when nobody is ready and nothing is
granted. -/
theorem first_turn_peak (view : View) (job : JobDescriptor) (limit : Option Nat) (runs : Nat)
    (pauses : 1 ≤ s.dispatcher.pause) (turn : FirstTurn first roster w) :
    underLimit limit (roster.rested.length + roster.due view) ≤
      Effect.peak 0 ((s.drive view job limit runs roster w).2.since first) := by
  have finished (roster : Roster) (w : Journal) (turn : FirstTurn first roster w)
      (ungranted : roster.grant? limit = none) (ready : roster.ready = []) :
      underLimit limit (roster.rested.length + roster.due view) ≤
        Effect.peak 0 ((s.drive view job limit runs roster w).2.since first) := by
    obtain ⟨more, extended, opened⟩ := turn.opened
    obtain ⟨rest, added⟩ := drive_extends s view job limit runs roster w
    rw [extended, List.append_assoc] at added
    rw [Journal.since_eq added.symm]
    calc underLimit limit (roster.rested.length + roster.due view)
      _ ≤ Effect.openAfter 0 more := opened ▸ first_turn_over ungranted ready
      _ ≤ Effect.peak 0 more := Effect.openAfter_le_peak 0 more
      _ ≤ Effect.peak 0 (more ++ rest) := Effect.peak_le_append 0 more rest
  induction roster, w using Service.drive.induct s view job limit runs with
  | case1 roster w next granted ih =>
    obtain ⟨turn, rested, due⟩ := grant_first_turn view granted turn
    rw [drive_grant granted, ← rested, ← due]
    exact ih turn
  | case2 roster w ungranted done =>
    exact finished roster w turn ungranted (roster_done ungranted done).2.1
  | case3 roster w ungranted holder place next found after ih =>
    cases ready : roster.ready with
    | nil => exact finished roster w turn ungranted ready
    | cons head rest =>
      have carried : head = (holder, place) ∧ { roster with ready := rest } = next := by
        simpa [Roster.next?, ready] using found
      obtain ⟨rfl, rfl⟩ := carried
      obtain ⟨turn, same⟩ := carry_first_turn view job pauses ready turn
      rw [drive_carry ungranted found, ← same]
      exact ih turn

end Fanout
