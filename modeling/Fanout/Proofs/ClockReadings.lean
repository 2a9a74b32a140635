import Fanout.Proofs.Trails
import Fanout.Proofs.RunOrder

/-! How requests read the clock. Every run takes two readings in a row when it begins, and
one more at its end if it was dispatched; nothing else reads the clock. So the readings of a
request are shared out among its runs without a gap, whatever the interleaving. If no run
begins while another one is under way, which is so when no dispatch pauses, each run even has
its readings in one block, and the blocks follow each other in the order in which the runs
began. -/
namespace Fanout

/-- The readings that a run has taken, by their numbers: two in a row from the first one on,
and one more at the end of a dispatch. -/
structure Stamps where
  first : Nat
  last : Option Nat := none

/-- All the readings that a run has taken, in order. -/
def Stamps.taken (stamps : Stamps) : List Nat :=
  stamps.first :: (stamps.first + 1) :: stamps.last.toList

/-- The times in a record are these readings. Only a record with a route has a third one,
and that came later. -/
def Execution.StampedBy (clock : Nat → Millis) (e : Execution) (stamps : Stamps) : Prop :=
  e.status.createdAt = clock stamps.first ∧
    match stamps.last with
    | none => e.route = none ∧ e.status.startedAt = none ∧
        e.status.finishedAt = some (clock (stamps.first + 1))
    | some last => e.route.isSome ∧ e.status.startedAt = some (clock (stamps.first + 1)) ∧
        e.status.finishedAt = some (clock last) ∧ stamps.first + 1 < last

/-- The readings from a start on are those of runs that began in this order, each of them
taken once. If `blocks` holds, one run after the other has taken all of its readings. -/
structure Account (blocks : Prop) (start later : Nat) (stamps : List Stamps) : Prop where
  rising : stamps.Pairwise fun run next => run.first < next.first
  taken : (stamps.flatMap Stamps.taken).Perm
    (List.range' start (stamps.flatMap Stamps.taken).length)
  inBlocks : blocks → stamps.flatMap Stamps.taken =
    List.range' start (stamps.flatMap Stamps.taken).length
  spent : later = start + (stamps.flatMap Stamps.taken).length

/-- The readings that a run which has been handed over took as it began stand in its
status. -/
def Pending.StampedBy (clock : Nat → Millis) (run : Pending) (stamps : Stamps) : Prop :=
  stamps.last = none ∧ run.status.state = .executing ∧
    run.status.createdAt = clock stamps.first ∧
    run.status.startedAt = some (clock (stamps.first + 1))

/-- What a run has come to shows the readings that it has taken. -/
def Stage.StampedBy (clock : Nat → Millis) (stamps : Stamps) : Stage → Prop
  | .waiting | .granted => False
  | .begun (.dispatched run) => run.StampedBy clock stamps
  | .begun (.settled result) | .ended result => ∃ e, result = .ok e ∧ e.StampedBy clock stamps

/-- The run has begun and not ended. -/
def Stage.underWay : Stage → Nat
  | .begun _ => 1
  | _ => 0

/-- How many runs have begun and not ended. -/
def Floor.underWay (floor : Floor) : Nat :=
  Stage.total Stage.underWay (floor.lanes.map Lane.stage)

/-- The runs that have begun since a journal, in the order in which they began, each with
its readings. If `ordered` holds that is the target order. If `blocks` holds only the last
one may still be under way. -/
structure ReadingOrder (clock : Nat → Millis) (ordered blocks : Prop) (w : Journal)
    (floor : Floor) (order : List (Lane × Stamps)) : Prop where
  perm : (order.map Prod.fst).Perm floor.begun
  target : ordered → order.map Prod.fst = floor.begun
  stamped : ∀ entry ∈ order, entry.1.stage.StampedBy clock entry.2
  account : Account blocks w.readings floor.journal.readings (order.map Prod.snd)
  settled : blocks → order.Pairwise fun entry _ => entry.1.stage.underWay = 0

variable {s : Service} {view : View} {job : JobDescriptor} {limit : Nat} {nodes : List Node}
  {w later : Journal} {floor : Floor} {Kind : Floor → Prop} {ordered blocks : Prop}
  {clock : Nat → Millis} {start now free next : Nat} {stamps before after : List Stamps}
  {own : Stamps}

/-! ### Keeping the account -/

theorem account_none (blocks : Prop) (start : Nat) : Account blocks start start [] :=
  ⟨.nil, .refl _, fun _ => rfl, rfl⟩

theorem account_within (account : Account blocks start now stamps) (member : own ∈ stamps)
    {reading : Nat} (taken : reading ∈ own.taken) : start ≤ reading ∧ reading < now := by
  have listed : reading ∈ stamps.flatMap Stamps.taken := List.mem_flatMap.mpr ⟨own, member, taken⟩
  have within := List.mem_range'_1.mp (account.taken.subset listed)
  rw [account.spent]
  exact within

theorem account_begins (account : Account blocks start now stamps) :
    Account blocks start (now + 2) (stamps ++ [{ first := now }]) := by
  have two : (stamps ++ [({ first := now } : Stamps)]).flatMap Stamps.taken =
      stamps.flatMap Stamps.taken ++ [now, now + 1] := by
    simp [Stamps.taken]
  obtain ⟨rising, taken, inBlocks, spent⟩ := id account
  have range : List.range' start ((stamps.flatMap Stamps.taken).length + 2) =
      List.range' start (stamps.flatMap Stamps.taken).length ++ [now, now + 1] := by
    rw [← List.range'_append_1, ← spent]
    rfl
  refine ⟨?_, ?_, ?_, ?_⟩
  · refine List.pairwise_append.mpr ⟨rising, List.pairwise_singleton .., ?_⟩
    intro run member next last
    rw [List.mem_singleton.mp last]
    exact (account_within account member List.mem_cons_self).2
  · rw [two, List.length_append]
    exact range ▸ taken.append_right _
  · intro holds
    rw [two, List.length_append]
    exact (congrArg (· ++ [now, now + 1]) (inBlocks holds)).trans range.symm
  · rw [two, List.length_append, spent, Nat.add_assoc]
    rfl

/-- A run that ends takes the next reading. If the readings come in blocks, it was the last
one to begin. -/
theorem account_ends (account : Account blocks start now (before ++ own :: after))
    (open_ : own.last = none) (alone : blocks → after = []) :
    Account blocks start (now + 1) (before ++ { own with last := some now } :: after) := by
  obtain ⟨rising, taken, inBlocks, spent⟩ := account
  have was : (before ++ own :: after).flatMap Stamps.taken = before.flatMap Stamps.taken ++
      ([own.first, own.first + 1] ++ after.flatMap Stamps.taken) := by
    simp [Stamps.taken, open_]
  have now_is : (before ++ { own with last := some now } :: after).flatMap Stamps.taken =
      before.flatMap Stamps.taken ++ ([own.first, own.first + 1] ++
        (now :: after.flatMap Stamps.taken)) := by
    simp [Stamps.taken]
  have size : ((before ++ { own with last := some now } :: after).flatMap Stamps.taken).length =
      ((before ++ own :: after).flatMap Stamps.taken).length + 1 := by
    rw [was, now_is]
    simp only [List.length_append, List.length_cons]
    omega
  have range : List.range' start
      (((before ++ own :: after).flatMap Stamps.taken).length + 1) =
      List.range' start ((before ++ own :: after).flatMap Stamps.taken).length ++ [now] := by
    rw [List.range'_concat, Nat.one_mul, ← spent]
  refine ⟨?_, ?_, ?_, ?_⟩
  · have firsts : (before ++ { own with last := some now } :: after).map Stamps.first =
        (before ++ own :: after).map Stamps.first := by simp
    rw [← List.pairwise_map (f := Stamps.first) (R := (· < ·))] at rising ⊢
    exact firsts ▸ rising
  · rw [size, range]
    refine List.Perm.trans ?_ (taken.append_right [now])
    rw [was, now_is, List.append_assoc, List.append_assoc]
    exact ((List.perm_append_singleton now _).symm.append_left _).append_left _
  · intro holds
    rw [size, range, ← inBlocks holds, was, now_is, alone holds]
    simp
  · rw [size, spent, Nat.add_assoc]

/-! ### Beginning and ending a run -/

theorem begin_run_stamped {node : Node} {begun : Begun}
    (begins : s.beginRun view job node w = (begun, later)) :
    (Stage.begun begun).StampedBy s.clock { first := w.readings } ∧
      later.readings = w.readings + 2 := by
  cases member : view.has node.id with
  | true =>
    rw [Service.begin_member _ _ _ _ _ member, beginning_member member] at begins
    cases begins
    exact ⟨⟨rfl, rfl, rfl, rfl⟩, rfl⟩
  | false =>
    rw [Service.begin_departed _ _ _ _ _ member, beginning_departed member] at begins
    cases begins
    exact ⟨⟨_, rfl, rfl, rfl, rfl, rfl⟩, rfl⟩

/-- A run that was handed over ends with one more reading, which stands in its record. -/
theorem finish_run_stamped {run : Pending} {result : RunResult}
    (finishes : s.finishRun run w = (result, later)) (stamped : run.StampedBy s.clock own)
    (behind : own.first + 1 < w.readings) :
    (∃ e, result = .ok e ∧ e.StampedBy s.clock { own with last := some w.readings }) ∧
      later.readings = w.readings + 1 := by
  obtain ⟨-, running, created, started⟩ := stamped
  have ends := s.finish_result w running
  rw [finishes] at ends
  have journal := Service.finish_journal finishes
  refine ⟨⟨_, ends, created, rfl, started, rfl, behind⟩, ?_⟩
  rw [journal]

/-! ### The readings on a floor -/

/-- A run that goes on stays where it is among those that have begun, whatever readings it
has then taken. -/
theorem entry_goes_on {before after : List Lane} {lane moved : Lane} {v : Journal}
    {order : List (Lane × Stamps)} (begun : lane.stage.hasBegun = true)
    (goesOn : moved.stage.hasBegun = true)
    (perm : (order.map Prod.fst).Perm (⟨free, before ++ lane :: after, v⟩ : Floor).begun)
    (target : ordered →
      order.map Prod.fst = (⟨free, before ++ lane :: after, v⟩ : Floor).begun) :
    ∃ ahead own behind, order = ahead ++ (lane, own) :: behind ∧ ∀ taken,
      ((ahead ++ (moved, taken) :: behind).map Prod.fst).Perm
          (⟨next, before ++ moved :: after, later⟩ : Floor).begun ∧
        (ordered → (ahead ++ (moved, taken) :: behind).map Prod.fst =
          (⟨next, before ++ moved :: after, later⟩ : Floor).begun) := by
  obtain ⟨front, back, split, listed, inPlace⟩ := listed_goes_on next later begun goesOn perm target
  obtain ⟨ahead, rest, rfl, rfl, others⟩ := List.map_eq_append_iff.mp split
  obtain ⟨⟨_, own⟩, behind, rfl, rfl, rfl⟩ := List.map_eq_cons_iff.mp others
  refine ⟨ahead, own, behind, rfl, fun taken => ?_⟩
  rw [List.map_append, List.map_cons]
  exact ⟨listed, inPlace⟩

theorem stamped_goes_on {lane moved : Lane} {ahead behind : List (Lane × Stamps)} {taken : Stamps}
    (stamped : ∀ entry ∈ ahead ++ (lane, own) :: behind, entry.1.stage.StampedBy clock entry.2)
    (here : moved.stage.StampedBy clock taken) :
    ∀ entry ∈ ahead ++ (moved, taken) :: behind, entry.1.stage.StampedBy clock entry.2 := by
  intro entry member
  rcases List.mem_append.mp member with front | rest
  · exact stamped entry (List.mem_append_left _ front)
  · rcases List.mem_cons.mp rest with rfl | back
    · exact here
    · exact stamped entry (List.mem_append_right _ (List.mem_cons_of_mem _ back))

theorem settled_goes_on {lane moved : Lane} {ahead behind : List (Lane × Stamps)}
    {taken : Stamps} (ended : moved.stage.underWay = 0)
    (settled : (ahead ++ (lane, own) :: behind).Pairwise fun entry _ =>
      entry.1.stage.underWay = 0) :
    (ahead ++ (moved, taken) :: behind).Pairwise fun entry _ => entry.1.stage.underWay = 0 := by
  obtain ⟨front, rest, across⟩ := List.pairwise_append.mp settled
  obtain ⟨-, back⟩ := List.pairwise_cons.mp rest
  refine List.pairwise_append.mpr ⟨front, List.pairwise_cons.mpr ⟨fun _ _ => ended, back⟩, ?_⟩
  intro entry member _ _
  exact across entry member (lane, own) List.mem_cons_self

theorem reading_order_begins {before after : List Lane} {lane : Lane} {v : Journal}
    {begun : Begun} {order : List (Lane × Stamps)} (granted : lane.stage = .granted)
    (begins : s.beginRun view job lane.node v = (begun, later))
    (inOrder : ordered → (⟨free, before ++ lane :: after, v⟩ : Floor).InOrder)
    (alone : blocks →
      (⟨free, before ++ lane.reach (.begun begun) v later :: after, later⟩ : Floor).underWay ≤ 1)
    (kept : ReadingOrder s.clock ordered blocks w ⟨free, before ++ lane :: after, v⟩ order) :
    ReadingOrder s.clock ordered blocks w
      ⟨free, before ++ lane.reach (.begun begun) v later :: after, later⟩
      (order ++ [(lane.reach (.begun begun) v later, { first := v.readings })]) := by
  obtain ⟨perm, target, stamped, account, settled⟩ := kept
  obtain ⟨here, readings⟩ := begin_run_stamped begins
  have idle : lane.stage.hasBegun = false := by rw [granted]; rfl
  have goesOn : (lane.reach (.begun begun) v later).stage.hasBegun = true := rfl
  obtain ⟨listed, inPlace⟩ := listed_begins free later idle goesOn inOrder perm target
  refine ⟨?_, ?_, ?_, ?_, ?_⟩
  · rw [List.map_append]
    exact listed
  · rw [List.map_append]
    exact inPlace
  · intro entry member
    rcases List.mem_append.mp member with front | last
    · exact stamped entry front
    · rw [List.mem_singleton.mp last]
      exact here
  · rw [List.map_append, readings]
    exact account_begins account
  · intro holds
    have others : Stage.total Stage.underWay ((before ++ after).map Lane.stage) = 0 := by
      have most := alone holds
      simp only [Floor.underWay, total_lane, Lane.reach, Stage.underWay] at most
      omega
    refine List.pairwise_append.mpr ⟨settled holds, List.pairwise_singleton .., ?_⟩
    intro entry member _ _
    have among := perm.subset (List.mem_map_of_mem member)
    simp only [Floor.begun, List.filter_append, List.filter_cons, idle, Bool.false_eq_true,
      if_false, List.mem_append, List.mem_filter] at among
    have inside : entry.1.stage ∈ (before ++ after).map Lane.stage := by
      refine List.mem_map_of_mem (List.mem_append.mpr ?_)
      exact among.imp And.left And.left
    exact Nat.le_zero.mp (others ▸ le_total inside)

/-- A run that ends keeps its place among those that have begun, if the readings that it has
then taken keep the account. -/
theorem reading_order_ends {before after : List Lane} {lane moved : Lane} {v : Journal}
    {order : List (Lane × Stamps)} (begun : lane.stage.hasBegun = true)
    (goesOn : moved.stage.hasBegun = true) (ended : moved.stage.underWay = 0)
    (kept : ReadingOrder s.clock ordered blocks w ⟨free, before ++ lane :: after, v⟩ order)
    (takes : ∀ ahead own behind, order = ahead ++ (lane, own) :: behind →
      ∃ taken, moved.stage.StampedBy s.clock taken ∧ Account blocks w.readings later.readings
        ((ahead ++ (moved, taken) :: behind).map Prod.snd)) :
    ∃ order, ReadingOrder s.clock ordered blocks w ⟨next, before ++ moved :: after, later⟩
      order := by
  obtain ⟨perm, target, stamped, -, settled⟩ := kept
  obtain ⟨ahead, own, behind, rfl, replaced⟩ := entry_goes_on begun goesOn perm target
  obtain ⟨taken, here, account⟩ := takes ahead own behind rfl
  obtain ⟨listed, inPlace⟩ := replaced taken
  exact ⟨_, listed, inPlace, stamped_goes_on stamped here, account,
    fun holds => settled_goes_on ended (settled holds)⟩

theorem account_finishes {lane moved : Lane} {v : Journal} {ahead behind : List (Lane × Stamps)}
    {run : Pending} {result : RunResult}
    (dispatched : lane.stage = .begun (.dispatched run))
    (finishes : s.finishRun run v = (result, later))
    (stamped : lane.stage.StampedBy s.clock own)
    (account : Account blocks start v.readings ((ahead ++ (lane, own) :: behind).map Prod.snd))
    (settled : blocks → (ahead ++ (lane, own) :: behind).Pairwise fun entry _ =>
      entry.1.stage.underWay = 0) :
    ∃ taken, (Stage.ended result).StampedBy s.clock taken ∧ Account blocks start later.readings
      ((ahead ++ (moved, taken) :: behind).map Prod.snd) := by
  rw [dispatched] at stamped
  have second : own.first + 1 ∈ own.taken := List.mem_cons_of_mem _ List.mem_cons_self
  have within := account_within account (by simp) second
  obtain ⟨ended, readings⟩ := finish_run_stamped finishes stamped within.2
  have last : blocks → behind = [] := by
    intro holds
    have rest := (List.pairwise_append.mp (settled holds)).2.1
    refine List.eq_nil_iff_forall_not_mem.mpr fun entry member => ?_
    have done := (List.pairwise_cons.mp rest).1 entry member
    simp [dispatched, Stage.underWay] at done
  refine ⟨{ own with last := some v.readings }, ended, ?_⟩
  rw [List.map_append, List.map_cons] at account ⊢
  rw [readings]
  exact account_ends account stamped.1 fun holds => congrArg (List.map Prod.snd) (last holds)

/-- One step of a run keeps the readings in order: a run that begins takes the next two and
comes last, and one whose dispatch has been answered takes the next one as it ends. -/
theorem reading_order_step {before after : List Lane} {lane moved : Lane} {v : Journal}
    {order : List (Lane × Stamps)} (step : LaneStep s view job free lane v next moved later)
    (inOrder : ordered → (⟨free, before ++ lane :: after, v⟩ : Floor).InOrder)
    (alone : blocks → (⟨next, before ++ moved :: after, later⟩ : Floor).underWay ≤ 1)
    (kept : ReadingOrder s.clock ordered blocks w ⟨free, before ++ lane :: after, v⟩ order) :
    ∃ order, ReadingOrder s.clock ordered blocks w ⟨next, before ++ moved :: after, later⟩
      order := by
  cases step with
  | grant waits =>
    obtain ⟨perm, target, stamped, account, settled⟩ := kept
    have idle : lane.stage.hasBegun = false := by rw [waits]; rfl
    have idles : (lane.reach .granted later later).stage.hasBegun = false := rfl
    rw [← begun_unmoved idle idles] at perm target
    exact ⟨order, perm, target, stamped, account, settled⟩
  | start granted begins =>
    exact ⟨_, reading_order_begins granted begins inOrder alone kept⟩
  | settle settles =>
    have begun : lane.stage.hasBegun = true := by rw [settles]; rfl
    refine reading_order_ends begun rfl rfl kept fun ahead own behind split => ⟨own, ?_, ?_⟩
    · have here := kept.stamped (lane, own) (by simp [split])
      rwa [settles] at here
    · have account := kept.account
      simpa [split] using account
  | finish dispatched finishes =>
    have begun : lane.stage.hasBegun = true := by rw [dispatched]; rfl
    refine reading_order_ends begun rfl rfl kept fun ahead own behind split => ?_
    subst split
    exact account_finishes dispatched finishes (kept.stamped (lane, own) (by simp)) kept.account
      kept.settled

/-- The runs on every floor of a trail share the readings out among them. They do so in
target order if the floors of the trail are in order, and block by block if at most one run
is under way on each of them. -/
theorem trail_reading_order (trail : Trail s view job Kind (.entry limit nodes w) floor)
    (inOrder : ordered → ∀ passed, Kind passed → passed.InOrder)
    (alone : blocks → ∀ passed, Kind passed → passed.underWay ≤ 1) :
    (ordered → floor.InOrder) ∧ ∃ order, ReadingOrder s.clock ordered blocks w floor order := by
  induction trail with
  | refl =>
    refine ⟨fun _ => entry_inOrder .., [], ?_, ?_, ?_, account_none .., fun _ => .nil⟩
    · rw [entry_begun]
      exact .nil
    · intro _
      rw [entry_begun]
      rfl
    · intro entry member
      cases member
  | @tail floor next trail last ih =>
    obtain ⟨taken, kind⟩ := last
    obtain ⟨ordered, order, kept⟩ := ih
    refine ⟨fun holds => inOrder holds next kind, ?_⟩
    cases taken with
    | lane step => exact reading_order_step step ordered (fun holds => alone holds _ kind) kept

end Fanout
