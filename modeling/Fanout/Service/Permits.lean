import Fanout.ServiceError

/-! The permits of a broadcast with a limit. A semaphore hands them out; it is made for the
broadcast and given up with it. A semaphore that was closed would turn away whoever asks
it for a permit. This one is never closed, so whoever asks has a permit or waits for one. -/
namespace Fanout

/-- The most permits that a limit may ask for, `2 ^ 61 - 1`: three bits of a word are
used otherwise. -/
def maxPermits : Nat := 2305843009213693951

/-- A limit asks for more permits than there can be. -/
def exceedsPermits (limit : Option Nat) : Bool :=
  limit.any (maxPermits < ·)

/-- A permit is free while so many are held. Without a limit there always is one,
and with any limit there is one while none is held. -/
def permitFree (limit : Option Nat) (held : Nat) : Bool :=
  match limit with
  | none => true
  | some n => held < max n 1

/-- A permit is free while none is held. -/
@[simp] theorem permitFree_zero (limit : Option Nat) : permitFree limit 0 = true := by
  cases limit with
  | none => rfl
  | some n => simp only [permitFree, decide_eq_true_eq]; omega

/-- What asking for a permit leads to. -/
inductive Permit where
  | granted
  /-- None is free. -/
  | awaited
  | refused (error : ServiceError)
  deriving DecidableEq, Repr

/-- What hands permits out. -/
structure Semaphore where
  free : Nat
  isClosed : Bool := false

namespace Semaphore

/-- The semaphore of a limit. There is at least one permit. -/
def ofLimit (n : Nat) : Semaphore := { free := max n 1 }

/-- The semaphore while so many of its permits are held. -/
def less (semaphore : Semaphore) (held : Nat) : Semaphore :=
  { semaphore with free := semaphore.free - held }

/-- Asks for a permit. -/
def ask (semaphore : Semaphore) : Permit :=
  if semaphore.isClosed then .refused (.internal "semaphore closed")
  else if semaphore.free = 0 then .awaited
  else .granted

end Semaphore

/-- What a run that asks for a permit is told while so many are held. Without a limit it
need not ask. -/
def askPermit (limit : Option Nat) (held : Nat) : Permit :=
  match limit with
  | none => .granted
  | some n => ((Semaphore.ofLimit n).less held).ask

/-- Nobody is turned away: there is a permit if one is free, and else it is waited for. -/
theorem ask_permit_eq (limit : Option Nat) (held : Nat) :
    askPermit limit held = if permitFree limit held then .granted else .awaited := by
  cases limit with
  | none => rfl
  | some n =>
    have spent : max n 1 - held = 0 ↔ ¬ held < max n 1 := by omega
    simp only [askPermit, Semaphore.ask, Semaphore.less, Semaphore.ofLimit, permitFree, spent,
      Bool.false_eq_true, if_false, decide_eq_true_eq, ite_not]

end Fanout
