/-! The executor that carries the runs of a broadcast side by side. It works in
turns: within a turn every run that can go on is carried on until it ends or takes a
break, and the runs that took a break are resumed in the next turn. -/
namespace Fanout

/-- How an executor lays out its turns. -/
structure Executor where
  /-- How many runs of a broadcast with a limit may begin in one turn, if the executor
  counts them; zero counts as one. -/
  turnSize : Option Nat := none
  /-- The most runs of a broadcast that are resumed in the order in which they took
  their break. If there are more, they are resumed last in, first out. -/
  inOrder : Nat := 30
  deriving DecidableEq, Repr

namespace Executor

/-- The executor of a service unless it is given another one. -/
def standard : Executor := { turnSize := some 128 }

/-- How many runs may begin in a turn of a broadcast, if that is bounded. Without a
limit the runs ask for nothing that the executor counts. -/
def allowance (executor : Executor) (limit : Option Nat) : Option Nat :=
  match limit with
  | none => none
  | some _ => executor.turnSize.map (max · 1)

/-- The order in which runs that took a break are resumed, in a broadcast of so many
runs. -/
def resume {α : Type} (executor : Executor) (runs : Nat) (rested : List α) : List α :=
  if runs ≤ executor.inOrder then rested else rested.reverse

@[simp] theorem allowance_none (executor : Executor) : executor.allowance none = none := rfl

/-- A turn lets at least one run begin. -/
theorem allowance_ne_zero (executor : Executor) (limit : Option Nat) :
    executor.allowance limit ≠ some 0 := by
  cases limit with
  | none => simp
  | some n =>
    simp only [allowance, ne_eq, Option.map_eq_some_iff, not_exists, not_and]
    intro size _
    omega

/-- Nobody is lost at a break. -/
theorem resume_perm {α : Type} (executor : Executor) (runs : Nat) (rested : List α) :
    (executor.resume runs rested).Perm rested := by
  unfold resume
  split
  · exact .refl rested
  · exact rested.reverse_perm

end Executor

end Fanout
