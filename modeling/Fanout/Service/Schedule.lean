import Fanout.Service.Permits
import Fanout.Service.Run

/-! The runs of one broadcast side by side. They wait for permits in target order, and
whenever a permit is free the first of them is granted it. Those that hold a permit
are carried on one after the other, in the turns of the executor: a run that begins
and whose dispatch pauses takes a break until the next turn, and a run that ends gives
its permit back. So no permit is idle while a run waits, and whatever the order of the
endings, the results stand in target order. -/
namespace Fanout

/-- A run that holds a permit. -/
inductive Holder where
  /-- It has not begun. -/
  | granted (node : Node)
  /-- Its dispatch pauses so many times after this one. -/
  | paused (left : Nat) (run : Pending)

/-- What has become of a run that was carried on. -/
inductive Progress where
  /-- It takes a break. -/
  | resting (holder : Holder)
  | ended (result : RunResult)

/-- Where the runs of a broadcast stand, each with its place in the target. -/
structure Roster where
  /-- The runs without a permit, first come, first served. -/
  waiting : List (Node × Nat)
  /-- The runs that can go on in this turn. -/
  ready : List (Holder × Nat) := []
  /-- The runs that took a break in this turn. -/
  rested : List (Holder × Nat) := []
  /-- The runs that have ended, in target order. -/
  ended : List (RunResult × Nat) := []
  /-- How many more runs may begin in this turn, if that is bounded. -/
  left : Option Nat

namespace Holder

/-- The steps a run still takes with a dispatcher that pauses so many times. -/
def work (pause : Nat) : Holder → Nat
  | .granted _ => pause + 1
  | .paused left _ => left + 1

/-- The steps that runs still take together. -/
def workOf (pause : Nat) : List (Holder × Nat) → Nat
  | [] => 0
  | (holder, _) :: rest => holder.work pause + workOf pause rest

theorem workOf_append (pause : Nat) (xs ys : List (Holder × Nat)) :
    workOf pause (xs ++ ys) = workOf pause xs + workOf pause ys := by
  induction xs with
  | nil => simp [workOf]
  | cons x rest ih => simp only [List.cons_append, workOf, ih, Nat.add_assoc]

theorem workOf_perm (pause : Nat) {xs ys : List (Holder × Nat)} (perm : xs.Perm ys) :
    workOf pause xs = workOf pause ys := by
  induction perm with
  | nil => rfl
  | cons x _ ih => simp only [workOf, ih]
  | swap x y rest => simp only [workOf]; omega
  | trans _ _ first second => exact first.trans second

end Holder

/-- The steps a run still takes after it was carried on. -/
def Progress.work (pause : Nat) : Progress → Nat
  | .resting holder => holder.work pause
  | .ended _ => 0

/-- Puts a result into its place among results in target order. -/
def placeResult (result : RunResult) (place : Nat) :
    List (RunResult × Nat) → List (RunResult × Nat)
  | [] => [(result, place)]
  | other :: rest =>
    if place < other.2 then (result, place) :: other :: rest
    else other :: placeResult result place rest

namespace Roster

/-- All runs wait. -/
def entry (nodes : List Node) (left : Option Nat) : Roster where
  waiting := nodes.zipIdx
  left := left

/-- The permits that runs hold together. -/
def held (roster : Roster) : Nat := roster.ready.length + roster.rested.length

/-- The results of the runs that have ended, in target order. -/
def results (roster : Roster) : List RunResult := roster.ended.map (·.1)

/-- The roster after the first of those that wait was answered when it asked for a
permit, if one waits and is answered. If it were turned away, it would end with the
error. -/
def grant? (limit : Option Nat) (roster : Roster) : Option Roster :=
  match roster.waiting with
  | [] => none
  | (node, place) :: rest =>
    match askPermit limit roster.held with
    | .granted =>
      some { roster with
        waiting := rest
        ready := roster.ready ++ [(.granted node, place)] }
    | .awaited => none
    | .refused error =>
      some { roster with
        waiting := rest
        ended := placeResult (.error error) place roster.ended }

/-- The run that is carried on next, and the roster without it. If none can go on in
this turn, the next turn starts with those that took a break, in the order that
`resume` puts them in, and the allowance is fresh. -/
def next? (resume : List (Holder × Nat) → List (Holder × Nat)) (allowance : Option Nat)
    (roster : Roster) : Option ((Holder × Nat) × Roster) :=
  match roster.ready with
  | first :: rest => some (first, { roster with ready := rest })
  | [] =>
    match resume roster.rested with
    | first :: rest =>
      some (first, { roster with ready := rest, rested := [], left := allowance })
    | [] => none

/-- The turn has begun as many runs as it may, and this one has not begun. -/
def mustRest (roster : Roster) : Holder → Bool
  | .granted _ => roster.left == some 0
  | .paused _ _ => false

/-- Counts a run that begins. -/
def charge (roster : Roster) : Holder → Roster
  | .granted _ => { roster with left := roster.left.map (· - 1) }
  | .paused _ _ => roster

/-- Takes in what has become of the run in a place. -/
def settle (roster : Roster) (place : Nat) : Progress → Roster
  | .resting holder => { roster with rested := roster.rested ++ [(holder, place)] }
  | .ended result => { roster with ended := placeResult result place roster.ended }

/-- The steps that are still taken, a grant among them for each run that waits. -/
def work (pause : Nat) (roster : Roster) : Nat :=
  roster.waiting.length * (pause + 2) + Holder.workOf pause roster.ready +
    Holder.workOf pause roster.rested

/-- Nobody is turned away: the first that waits has a permit as soon as one is free. -/
theorem grant_cases {limit : Option Nat} {roster next : Roster}
    (granted : roster.grant? limit = some next) :
    ∃ node place rest, roster.waiting = (node, place) :: rest ∧
      permitFree limit roster.held = true ∧
      next = { roster with
        waiting := rest
        ready := roster.ready ++ [(.granted node, place)] } := by
  cases waits : roster.waiting with
  | nil => simp [grant?, waits] at granted
  | cons first rest =>
    simp only [grant?, waits, ask_permit_eq] at granted
    cases available : permitFree limit roster.held with
    | false => simp [available] at granted
    | true => exact ⟨_, _, _, rfl, rfl, by simpa [available] using granted.symm⟩

theorem grant_eq_none_iff {limit : Option Nat} {roster : Roster} :
    roster.grant? limit = none ↔ roster.waiting = [] ∨ permitFree limit roster.held = false := by
  cases waits : roster.waiting with
  | nil => simp [grant?, waits]
  | cons first rest =>
    simp only [grant?, waits, ask_permit_eq]
    cases permitFree limit roster.held <;> simp

theorem work_grant? {limit : Option Nat} {roster next : Roster} (pause : Nat)
    (granted : roster.grant? limit = some next) : next.work pause < roster.work pause := by
  obtain ⟨node, place, rest, waits, -, rfl⟩ := grant_cases granted
  simp only [work, waits, Holder.workOf_append, Holder.workOf, Holder.work, List.length_cons,
    Nat.add_mul]
  omega

/-- A run that is carried on was ready, or a new turn has started with its allowance. -/
theorem work_next? {resume : List (Holder × Nat) → List (Holder × Nat)}
    {allowance : Option Nat} {roster next : Roster} {holder : Holder} {place : Nat}
    (pause : Nat) (perm : (resume roster.rested).Perm roster.rested)
    (found : roster.next? resume allowance = some ((holder, place), next)) :
    next.work pause + holder.work pause = roster.work pause ∧
      (next.ready.length < roster.ready.length ∨ next.left = allowance) := by
  unfold next? at found
  split at found
  · rename_i first rest ready
    cases found
    simp only [work, ready, Holder.workOf, List.length_cons]
    omega
  · rename_i ready
    split at found
    · rename_i first rest resumed
      cases found
      have same := Holder.workOf_perm pause perm
      rw [resumed, Holder.workOf] at same
      simp only [work, ready, Holder.workOf, or_true, and_true]
      omega
    · simp at found

@[simp] theorem work_charge (pause : Nat) (roster : Roster) (holder : Holder) :
    (roster.charge holder).work pause = roster.work pause := by
  cases holder <;> rfl

@[simp] theorem work_settle (pause : Nat) (roster : Roster) (place : Nat)
    (progress : Progress) :
    (roster.settle place progress).work pause = roster.work pause + progress.work pause := by
  cases progress with
  | resting holder =>
    simp only [settle, work, Holder.workOf_append, Holder.workOf, Progress.work]
    omega
  | ended result => rfl

end Roster

namespace Service

/-- Waits for a dispatch that pauses so many more times. -/
def await (s : Service) (pauses : Nat) (run : Pending) (w : Journal) : Progress × Journal :=
  match pauses with
  | 0 =>
    let (result, w) := s.finishRun run w
    (.ended result, w)
  | left + 1 => (.resting (.paused left run), w)

/-- Carries a run on until its next break or its end. -/
def advance (s : Service) (view : View) (job : JobDescriptor) (holder : Holder)
    (w : Journal) : Progress × Journal :=
  match holder with
  | .granted node =>
    match s.beginRun view job node w with
    | (.settled result, w) => (.ended result, w)
    | (.dispatched run, w) => s.await s.dispatcher.pause run w
  | .paused left run => s.await left run w

/-- Carries a run on, unless it has to rest first. -/
def attend (s : Service) (view : View) (job : JobDescriptor) (holder : Holder) (place : Nat)
    (roster : Roster) (w : Journal) : Roster × Journal :=
  if roster.mustRest holder then (roster.settle place (.resting holder), w)
  else
    let (progress, w) := s.advance view job holder w
    ((roster.charge holder).settle place progress, w)

theorem work_await (s : Service) (pauses : Nat) (run : Pending) (w : Journal) :
    (s.await pauses run w).1.work s.dispatcher.pause ≤ pauses := by
  cases pauses <;> simp [await, Progress.work, Holder.work]

theorem work_advance (s : Service) (view : View) (job : JobDescriptor) (holder : Holder)
    (w : Journal) :
    (s.advance view job holder w).1.work s.dispatcher.pause <
      holder.work s.dispatcher.pause := by
  cases holder with
  | granted node =>
    simp only [advance]
    split
    · simp [Progress.work, Holder.work]
    · exact Nat.lt_succ_of_le (work_await ..)
  | paused left run => exact Nat.lt_succ_of_le (work_await ..)

/-- Carrying a run on is a step, unless the run has to rest, which leaves the others as
they are. -/
theorem work_attend (s : Service) (view : View) (job : JobDescriptor) (holder : Holder)
    (place : Nat) (roster : Roster) (w : Journal) :
    let next := (s.attend view job holder place roster w).1
    next.work s.dispatcher.pause <
        roster.work s.dispatcher.pause + holder.work s.dispatcher.pause ∨
      roster.left = some 0 ∧ next.ready = roster.ready ∧
        next.work s.dispatcher.pause =
          roster.work s.dispatcher.pause + holder.work s.dispatcher.pause := by
  simp only [attend]
  split
  · rename_i rests
    refine .inr ⟨?_, rfl, Roster.work_settle ..⟩
    cases holder with
    | granted node => simpa [Roster.mustRest] using rests
    | paused left run => simp [Roster.mustRest] at rests
  · refine .inl ?_
    simp only [Roster.work_settle, Roster.work_charge]
    exact Nat.add_lt_add_left (work_advance ..) _

/-- Carries the runs on until all have ended: a permit is granted when one is free, and
otherwise the next run is carried on. Every step does some of the work that is left,
but for a run that has to rest, and a turn cannot start with such a run. -/
def drive (s : Service) (view : View) (job : JobDescriptor) (limit : Option Nat)
    (runs : Nat) (roster : Roster) (w : Journal) : List RunResult × Journal :=
  match _granted : roster.grant? limit with
  | some next => s.drive view job limit runs next w
  | none =>
    match _found : roster.next? (s.executor.resume runs) (s.executor.allowance limit) with
    | none => (roster.results, w)
    | some ((holder, place), next) =>
      let after := s.attend view job holder place next w
      s.drive view job limit runs after.1 after.2
  termination_by (roster.work s.dispatcher.pause, roster.ready.length)
  decreasing_by
    · exact Prod.Lex.left _ _ (Roster.work_grant? _ _granted)
    · have came := Roster.work_next? s.dispatcher.pause (s.executor.resume_perm runs _) _found
      rcases s.work_attend view job holder place next w with less | ⟨spent, same, equal⟩
      · exact Prod.Lex.left _ _ (came.1 ▸ less)
      · have fewer : next.ready.length < roster.ready.length := by
          refine came.2.resolve_right fun fresh => ?_
          exact s.executor.allowance_ne_zero limit (fresh ▸ spent)
        exact Prod.Lex.right' _ (Nat.le_of_eq (equal.trans came.1)) (same ▸ fewer)

/-- Runs a job on every node, with at most so many dispatches at a time. -/
def runAll (s : Service) (view : View) (job : JobDescriptor) (limit : Option Nat)
    (nodes : List Node) (w : Journal) : List RunResult × Journal :=
  s.drive view job limit nodes.length (.entry nodes (s.executor.allowance limit)) w

end Service

end Fanout
