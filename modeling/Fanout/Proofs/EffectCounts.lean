import Fanout.Service.Basic

/-! Counting over a journal. What is counted over the effects of several steps is put
together from what is counted over each of them: the calls and the reads follow each
other, and the peak is the highest of the peaks, each taken from the number of calls
that the steps before have left open. -/
namespace Fanout

namespace Effect

/-- The calls that are open after some effects, with so many open before them. -/
def openAfter (opened : Nat) : List Effect → Nat
  | [] => opened
  | .callBegun _ :: rest => openAfter (opened + 1) rest
  | .callEnded _ :: rest => openAfter (opened - 1) rest
  | _ :: rest => openAfter opened rest

/-- The effect asks the topology for something. -/
def isRead : Effect → Bool
  | .readLocal | .readMembers => true
  | .callBegun _ | .callEnded _ => false

/-- What some effects ask of the topology, in order. -/
def reads (effects : List Effect) : List Effect := effects.filter isRead

@[simp] theorem calls_nil : calls [] = [] := rfl

@[simp] theorem calls_append (xs ys : List Effect) : calls (xs ++ ys) = calls xs ++ calls ys :=
  List.filterMap_append

@[simp] theorem calls_map_callBegun (begun : List Call) : calls (begun.map .callBegun) = begun := by
  simp [calls, call?, List.filterMap_map, Function.comp_def]

@[simp] theorem reads_append (xs ys : List Effect) : reads (xs ++ ys) = reads xs ++ reads ys :=
  List.filter_append ..

theorem openAfter_append (opened : Nat) (xs ys : List Effect) :
    openAfter opened (xs ++ ys) = openAfter (openAfter opened xs) ys := by
  induction xs generalizing opened with
  | nil => rfl
  | cons effect rest ih => cases effect <;> exact ih _

theorem le_peak (opened : Nat) (effects : List Effect) : opened ≤ peak opened effects := by
  induction effects generalizing opened with
  | nil => exact Nat.le_refl _
  | cons effect rest ih =>
    cases effect with
    | readLocal | readMembers => exact ih opened
    | callBegun call | callEnded call => exact Nat.le_max_left ..

/-- The calls that are open at the end never exceed the peak. -/
theorem openAfter_le_peak (opened : Nat) (effects : List Effect) :
    openAfter opened effects ≤ peak opened effects := by
  induction effects generalizing opened with
  | nil => exact Nat.le_refl _
  | cons effect rest ih =>
    cases effect with
    | readLocal | readMembers => exact ih opened
    | callBegun call | callEnded call => exact Nat.le_trans (ih _) (Nat.le_max_right ..)

theorem peak_append (opened : Nat) (xs ys : List Effect) :
    peak opened (xs ++ ys) = max (peak opened xs) (peak (openAfter opened xs) ys) := by
  induction xs generalizing opened with
  | nil => exact (Nat.max_eq_right (le_peak opened ys)).symm
  | cons effect rest ih =>
    cases effect with
    | readLocal | readMembers => exact ih opened
    | callBegun call | callEnded call =>
      simp only [List.cons_append, peak, openAfter, ih, Nat.max_assoc]

/-- More effects never lower the peak. -/
theorem peak_le_append (opened : Nat) (xs ys : List Effect) :
    peak opened xs ≤ peak opened (xs ++ ys) := by
  rw [peak_append]
  exact Nat.le_max_left ..

/-- Once a call has begun there was a time with an open call. -/
theorem one_le_peak {effects : List Effect} (opened : Nat) (called : calls effects ≠ []) :
    1 ≤ peak opened effects := by
  induction effects generalizing opened with
  | nil => exact absurd rfl called
  | cons effect rest ih =>
    cases effect with
    | readLocal | readMembers => exact ih opened called
    | callBegun call =>
      have begun := le_peak (opened + 1) rest
      simp only [peak]
      omega
    | callEnded call => exact Nat.le_trans (ih _ called) (Nat.le_max_right ..)

end Effect

namespace Journal

variable {w later : Journal} {more : List Effect}

/-- What came after an earlier journal is what was put behind its effects. -/
theorem since_eq (extended : later.effects = w.effects ++ more) : later.since w = more := by
  rw [since, extended, List.drop_left]

theorem calls_eq (extended : later.effects = w.effects ++ more) :
    later.calls = w.calls ++ Effect.calls more := by
  rw [calls, extended, Effect.calls_append, calls]

@[simp] theorem since_self (w : Journal) : w.since w = [] := since_eq (List.append_nil _).symm

end Journal

end Fanout
